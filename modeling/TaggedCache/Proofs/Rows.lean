import TaggedCache.Proofs.Memory
import TaggedCache.Proofs.TagCheck
import TaggedCache.Sql.Bin

/-!
# Rows give back the items they were written for

The row of an item reads back as this item, except that the time of its writing is cut at the end of the column
(`item_ofItem`). The cut decides nothing about the expiry, so a row is stale exactly when a bin in memory would
call the item stale. A row that nobody has written is read as far as its tags are tags (`lookup_exact`).
-/

namespace TaggedCache

/-- The answer with something else in the place of the item. -/
def Lookup.map (f : Item → Item) : Lookup → Lookup
  | .fresh i => .fresh (f i)
  | .stale i => .stale (f i)
  | .absent => .absent

namespace Memory

variable {m : Memory} {key : String} {entry : Entry}

theorem get_of_find (h : Table.find key m.entries = some entry) (now : UInt64) : (m.get now key).1 =
    if entry.item.isExpired now ∨ entry.checksum ≠ checksum m.counters entry.item.tags then .stale entry.item
    else .fresh entry.item := by
  show ((m.find key).2.judge now (m.find key).1).1 = _
  rw [find_fst, h, judge, find_counters]
  split <;> rfl

end Memory

namespace Sql
namespace Row

/-- The item with the time of its writing as far as a column can hold it. -/
def cut (i : Item) : Item := { i with created := min i.created (.ofNat latest) }

variable {i : Item} {now : UInt64} {r : Row}

/-! ## Rows of items -/

theorem toNat_cut_created (i : Item) : (cut i).created.toNat = min i.created.toNat latest := by
  have hlatest : (UInt64.ofNat latest).toNat = latest := by decide
  rw [cut, UInt64.toNat_min, hlatest]

theorem item_ofItem (i : Item) (checksum currentChecksum : Int64) :
    (ofItem i checksum currentChecksum).item = .ok (cut i) := by
  have ⟨hlo, hhi⟩ := i.maxAge.toInt_bounds
  have hcreated : (Int64.ofNat (min i.created.toNat latest)).toInt.toNat = (cut i).created.toNat := by
    have hlt : min i.created.toNat latest < 2 ^ 63 := Nat.lt_of_le_of_lt (Nat.min_le_right _ _) (by decide)
    rw [Int64.toInt_ofNat_of_lt hlt, Int.toNat_natCast, toNat_cut_created]
  have hage : (Int64.ofInt i.maxAge.toInt).toInt = i.maxAge.toInt :=
    Int64.toInt_ofInt_of_le (by omega) (by omega)
  simp only [item, ofItem, TagSet.ofTexts_texts, hage, MaxAge.ofInt_toInt, hcreated, UInt64.ofNat_toNat]
  rfl

/-- Up to the end of the column nothing expires that was written at it or later. -/
theorem isExpired_cut (hage : i.maxAge ≠ .zero) (hnow : now.toNat ≤ latest) :
    (cut i).isExpired now = i.isExpired now := by
  have hcreated := toNat_cut_created i
  have hsize : latest < UInt64.size - 1 := by decide
  have hage' : (cut i).maxAge = i.maxAge := rfl
  unfold Item.isExpired Item.expiresAt
  rw [hage']
  cases hmax : i.maxAge with
  | permanent => rfl
  | seconds n =>
    have hpos : 0 < n.toNat := by
      refine Nat.pos_of_ne_zero fun hn => hage ?_
      rw [hmax, UInt32.toNat_inj.mp (hn.trans UInt32.toNat_zero.symm)]
      rfl
    simp only [UInt64.le_iff_toNat_le, Item.toNat_addClamped, UInt32.toNat_toUInt64, hcreated]
    exact decide_eq_decide.mpr (by omega)

theorem lookup_ofItem (hage : i.maxAge ≠ .zero) (hnow : now.toNat ≤ latest) (checksum currentChecksum : Int64) :
    (ofItem i checksum currentChecksum).lookup now =
      .ok (if checksum ≠ currentChecksum ∨ i.isExpired now then .stale (cut i) else .fresh (cut i)) := by
  rw [lookup, item_ofItem]
  simp only [isExpired_cut hage hnow]
  exact (apply_ite Except.ok _ _ _).symm

/-! ## Rows of any columns -/

/-- What is read from the columns of a row, as far as the columns say it. -/
structure Holds (r : Row) (i : Item) : Prop where
  data : i.data = r.data
  tags : i.tags.Lists (· ∈ r.tags)
  permanent : r.maxAge.toInt < 0 → i.maxAge = .permanent
  seconds : 0 ≤ r.maxAge.toInt →
    ∃ n : UInt32, i.maxAge = .seconds n ∧ (n.toNat : Int) = min r.maxAge.toInt 4294967295
  created : (i.created.toNat : Int) = max r.created.toInt 0

theorem ofInt_of_nonneg {n : Int} (h : 0 ≤ n) :
    ∃ count : UInt32, MaxAge.ofInt n = .seconds count ∧ (count.toNat : Int) = min n 4294967295 := by
  have hlt : min n.toNat (UInt32.size - 1) < UInt32.size :=
    Nat.lt_of_le_of_lt (Nat.min_le_right _ _) (by decide)
  refine ⟨_, if_neg (not_lt.mpr h), ?_⟩
  rw [UInt32.toNat_ofNat_of_lt' hlt]
  unfold UInt32.size
  omega

theorem exists_item (h : "" ∉ r.tags) : ∃ i, r.item = .ok i ∧ r.Holds i := by
  obtain ⟨tags, htags, -⟩ := TagSet.ofTexts_of_ne fun t ht he => h (he ▸ ht)
  refine ⟨⟨r.data, tags, .ofInt r.maxAge.toInt, .ofNat r.created.toInt.toNat⟩, by rw [item, htags]; rfl, ?_⟩
  constructor
  case data => rfl
  case tags => exact (TagSet.ofTexts_eq_ok_iff.mp htags).2
  case permanent => exact fun hneg => if_pos hneg
  case seconds => exact ofInt_of_nonneg
  case created =>
    have hlt := r.created.toInt_lt
    have hsize : r.created.toInt.toNat < UInt64.size := by
      unfold UInt64.size
      omega
    rw [UInt64.toNat_ofNat_of_lt' hsize]
    omega

theorem lookup_of_mem (h : "" ∈ r.tags) (now : UInt64) : r.lookup now =
    .error (.storage ("corrupt tag column: " ++ (Fault.invalidTag (r.tags.idxOf "") Tag.emptyReason).message)) := by
  rw [lookup, item, TagSet.ofTexts_refused h]
  rfl

theorem lookup_of_not_mem (h : "" ∉ r.tags) (now : UInt64) : ∃ i, r.Holds i ∧ r.lookup now =
    .ok (if r.checksum ≠ r.currentChecksum ∨ i.isExpired now then .stale i else .fresh i) := by
  obtain ⟨i, hi, hholds⟩ := exists_item h
  refine ⟨i, hholds, ?_⟩
  rw [lookup, hi]
  exact (apply_ite Except.ok _ _ _).symm

/-- The values of a write read back as the item, fresh or stale as a bin in memory has it; and a row of any columns
fails exactly on a text that is no tag. -/
theorem lookup_exact {σ : Type} [Server σ] (i : Item) (checksum currentChecksum : Int64) (now : UInt64)
    (hage : i.maxAge ≠ .zero) (hnow : now.toNat ≤ latest) :
    let row := ofItem i checksum currentChecksum
    (∀ (key : String) (b : Bin σ), let write := upsertRow b.table key i
      b.set key i = ((b.run write).outcome, (b.run write).bin) ∧
      write.binds = [.text key, .bytes row.data, .integer row.maxAge, .integer row.created, .texts row.tags]) ∧
    row.lookup now =
      .ok (if checksum ≠ currentChecksum ∨ i.isExpired now then .stale (cut i) else .fresh (cut i)) ∧
    (∀ (m : Memory) (key : String) (entry : Memory.Entry), Table.find key m.entries = some entry →
      entry.item = i → (entry.checksum = Memory.checksum m.counters i.tags ↔ checksum = currentChecksum) →
      row.lookup now = .ok ((m.get now key).1.map cut)) ∧
    ∀ (r : Row) (time : UInt64),
      ((∃ reason, r.lookup time = .error (.storage reason)) ↔ "" ∈ r.tags) ∧
      ("" ∉ r.tags → ∃ read, r.Holds read ∧ r.lookup time =
        .ok (if r.checksum ≠ r.currentChecksum ∨ read.isExpired time then .stale read else .fresh read)) := by
  have hread := lookup_ofItem hage hnow checksum currentChecksum
  refine ⟨fun key b => ⟨?written, rfl⟩, hread, ?memory, fun r time => ⟨?refused, ?read⟩⟩
  case written => exact if_neg fun hz => hage (of_decide_eq_true hz)
  case memory =>
    rintro m key entry hfind rfl hsame
    rw [hread, Memory.get_of_find hfind, apply_ite (Lookup.map cut)]
    simp only [ne_eq, hsame, or_comm, Lookup.map]
  case refused =>
    constructor
    · rintro ⟨reason, herror⟩
      by_contra h
      obtain ⟨read, -, hok⟩ := lookup_of_not_mem h time
      cases hok.symm.trans herror
    · exact fun h => ⟨_, lookup_of_mem h time⟩
  case read => exact fun h => lookup_of_not_mem h time

/-- At the end of the column an item of one second, written at the end of the clock, is fresh. -/
theorem lookup_exact_latest :
    let i : Item := ⟨[], .empty, .seconds 1, .ofNat (UInt64.size - 1)⟩
    i.maxAge ≠ .zero ∧ (UInt64.ofNat latest).toNat ≤ latest ∧
      (ofItem i 3 3).lookup (.ofNat latest) = .ok (.fresh (cut i)) := by
  have hage : MaxAge.seconds 1 ≠ .zero := by decide
  have hnow : (UInt64.ofNat latest).toNat ≤ latest := by decide
  refine ⟨hage, hnow, ?_⟩
  rw [(lookup_exact (σ := Unreachable) ⟨[], .empty, .seconds 1, .ofNat (UInt64.size - 1)⟩ 3 3 _ hage hnow).2.1]
  decide

end Row
end Sql
end TaggedCache

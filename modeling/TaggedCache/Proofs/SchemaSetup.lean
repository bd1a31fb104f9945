import TaggedCache.Proofs.Outcome
import TaggedCache.Sql.Bin

/-!
# When a bin in a database sets up its tables

Every operation of a bin is watched by a server that logs what is sent to it, which changes nothing
(`run_logged`). An operation sends its data statement behind the whole schema, unless an earlier operation
got the schema through, and stops at the first schema statement that fails (`goes_turn`). Over a run this
says of every statement when it is sent (`schema_precedes_data`).
-/

namespace TaggedCache
namespace Sql

/-- A statement that was sent, and how it ended. -/
structure Exchange where
  statement : Statement
  result : Except DatabaseFault (Option Row)
deriving DecidableEq

/-- A server with the log of what was sent to it. -/
structure Logged (σ : Type) where
  server : σ
  exchanges : List Exchange

variable {σ : Type} [Server σ]

instance : Server (Logged σ) where
  send s l :=
    let sent := Server.send s l.server
    ⟨sent.elapsed, sent.result, ⟨sent.server, l.exchanges ++ [⟨s, sent.result⟩]⟩⟩

/-! ## Several statements -/

/-- What is exchanged when statements are sent one after another, up to the first that fails. -/
def exchanged : List Statement → σ → List Exchange
  | [], _ => []
  | s :: rest, server =>
    let first := Server.send s server
    ⟨s, first.result⟩ :: if first.result.isOk then exchanged rest first.server else []

theorem sendAll_logged (ss : List Statement) (l : Logged σ) :
    sendAll ss l = ⟨(sendAll ss l.server).elapsed, (sendAll ss l.server).result,
      ⟨(sendAll ss l.server).server, l.exchanges ++ exchanged ss l.server⟩⟩ := by
  induction ss generalizing l with
  | nil => simp [sendAll, exchanged]
  | cons s rest ih =>
    have hsend : Server.send s l = ⟨(Server.send s l.server).elapsed, (Server.send s l.server).result,
      ⟨(Server.send s l.server).server, l.exchanges ++ [⟨s, (Server.send s l.server).result⟩]⟩⟩ := rfl
    rw [sendAll, sendAll, exchanged, hsend]
    cases hr : (Server.send s l.server).result with
    | error fault => simp [hr, Except.isOk, Except.toBool]
    | ok row? => simp [ih, Except.isOk, Except.toBool]

/-- The statements were sent one after another, and all went well. -/
def Done (ss : List Statement) (xs : List Exchange) : Prop :=
  xs.map (·.statement) = ss ∧ ∀ x ∈ xs, x.result.isOk = true

/-- The statements were sent up to one that failed, which was the last that was sent. -/
def Stopped (ss : List Statement) (fault : DatabaseFault) (xs : List Exchange) : Prop :=
  ∃ before s rest, xs = before ++ [⟨s, .error fault⟩] ∧ ss = before.map (·.statement) ++ s :: rest ∧
    ∀ x ∈ before, x.result.isOk = true

theorem sendAll_cases (ss : List Statement) (server : σ) :
    ((∃ row?, (sendAll ss server).result = .ok row?) ∧ Done ss (exchanged ss server)) ∨
      ∃ fault, (sendAll ss server).result = .error fault ∧ Stopped ss fault (exchanged ss server) := by
  induction ss generalizing server with
  | nil => exact .inl ⟨⟨none, rfl⟩, rfl, nofun⟩
  | cons s rest ih =>
    rw [sendAll, exchanged]
    cases hfirst : (Server.send s server).result with
    | error fault => exact .inr ⟨fault, by simp [hfirst], [], s, rest, rfl, rfl, nofun⟩
    | ok row? =>
      have hok : ∀ {xs : List Exchange}, (∀ x ∈ xs, x.result.isOk = true) →
          ∀ x ∈ Exchange.mk s (.ok row?) :: xs, x.result.isOk = true := by
        intro xs hxs x hx
        rcases List.mem_cons.mp hx with rfl | hx
        · rfl
        · exact hxs x hx
      simp only [Except.isOk, Except.toBool, if_true]
      rcases ih (Server.send s server).server with
        ⟨hrow, hmap, hall⟩ | ⟨fault, hfault, before, t, more, hx, hss, hall⟩
      · exact .inl ⟨hrow, by rw [List.map_cons, hmap], hok hall⟩
      · refine .inr ⟨fault, hfault, ⟨s, .ok row?⟩ :: before, t, more, ?_, ?_, hok hall⟩
        · rw [hx]
          rfl
        · rw [hss]
          rfl

/-- Statements of which one failed did not all go well. -/
theorem Stopped.not_done {ss : List Statement} {fault : DatabaseFault} {xs setup rest : List Exchange}
    (h : Stopped ss fault xs) (hx : xs = setup ++ rest) : ¬ Done ss setup := by
  rintro ⟨hmap, hall⟩
  obtain ⟨before, s, more, rfl, hss, -⟩ := h
  have hlen := congrArg List.length hx
  have hss' := congrArg List.length hss
  rw [← hmap] at hss'
  simp only [List.length_append, List.length_map, List.length_cons, List.length_nil] at hlen hss'
  obtain rfl : rest = [] := List.length_eq_zero_iff.mp (by omega)
  rw [List.append_nil] at hx
  have hlast : (⟨s, .error fault⟩ : Exchange) ∈ setup := by
    rw [← hx]
    exact List.mem_append_right _ (List.mem_singleton_self _)
  exact absurd (hall _ hlast) (by simp [Except.isOk, Except.toBool])

namespace Bin

/-! ## One operation -/

/-- An operation of a bin. -/
inductive Call where
  | get (now : UInt64) (key : String)
  | set (key : String) (item : Item)
  | delete (key : String)
  | applyTags (operation : Operation) (tags : TagSet)

namespace Call

/-- The statement that does what is asked. -/
def statement (table : String) : Call → Statement
  | .get _ key => selectRow table key
  | .set key item => upsertRow table key item
  | .delete key => deleteRow table key
  | .applyTags operation tags => Sql.applyTags table operation tags

/-- There is nothing to write. -/
def isSilent : Call → Bool
  | .set _ item => item.maxAge.isZero
  | _ => false

/-- What the operation answers when its statement found a row, or nothing. -/
def found : Call → Option Row → Except BinFault (Option Lookup)
  | .get _ _, none => .ok (some .absent)
  | .get now _, some row => (row.lookup now).map some
  | .set .., _ | .delete _, _ | .applyTags .., _ => .ok none

/-- What the operation answers when its last statement ended so. -/
def answer (c : Call) : Except DatabaseFault (Option Row) → Except BinFault (Option Lookup)
  | .error fault => .error (.database fault)
  | .ok row? => c.found row?

/-- What is asked, without the values it is asked with. -/
inductive Kind where
  | get
  | set
  | delete
  | applyTags (operation : Operation)

def kind : Call → Kind
  | .get .. => .get
  | .set .. => .set
  | .delete _ => .delete
  | .applyTags operation _ => .applyTags operation

/-- The values that the operation is asked with, as a database takes them. -/
def values : Call → List Value
  | .get _ key | .delete key => [.text key]
  | .set key item =>
    [.text key, .bytes item.data, .integer (.ofInt item.maxAge.toInt),
      .integer (.ofNat (min item.created.toNat Row.latest)), .texts item.tags.texts]
  | .applyTags _ tags => [.texts tags.texts]

def apply : Call → Bin σ → Except BinFault (Option Lookup) × Bin σ
  | .get now key, b => ((b.get now key).1.map some, (b.get now key).2)
  | .set key item, b => ((b.set key item).1.map fun _ => none, (b.set key item).2)
  | .delete key, b => ((b.delete key).1.map fun _ => none, (b.delete key).2)
  | .applyTags operation tags, b =>
    ((b.applyTags operation tags).outcome.map fun _ => none, (b.applyTags operation tags).bin)

theorem apply_eq (c : Call) (b : Bin σ) :
    c.apply b = if c.isSilent then (.ok none, b)
      else (c.answer (b.run (c.statement b.table)).result, (b.run (c.statement b.table)).bin) := by
  have houtcome : ∀ r : Ran σ, r.outcome.map (fun _ => (none : Option Lookup)) =
      match r.result with
      | .error fault => .error (.database fault)
      | .ok _ => .ok none := by
    intro r
    unfold Ran.outcome
    cases r.result <;> rfl
  cases c with
  | get now key =>
    simp only [apply, isSilent, Bin.get, statement, answer, found, Bool.false_eq_true, if_false]
    cases (b.run (selectRow b.table key)).result with
    | error fault => rfl
    | ok row? => cases row? <;> rfl
  | set key item =>
    have hsilent : (Call.set key item).isSilent = item.maxAge.isZero := rfl
    simp only [hsilent, apply, Bin.set, statement]
    by_cases hz : item.maxAge.isZero = true
    · rw [if_pos hz, if_pos hz]
      rfl
    · rw [if_neg hz, if_neg hz]
      simp only [houtcome]
      cases (b.run (upsertRow b.table key item)).result <;> rfl
  | delete key =>
    simp only [apply, isSilent, Bin.delete, statement, Bool.false_eq_true, if_false, houtcome]
    cases (b.run (deleteRow b.table key)).result <;> rfl
  | applyTags operation tags =>
    simp only [apply, isSilent, Bin.applyTags, statement, Bool.false_eq_true, if_false, houtcome]
    cases (b.run (Sql.applyTags b.table operation tags)).result <;> rfl

/-- The text of a statement depends on what is asked and on the table. -/
theorem text_statement {c d : Call} (h : c.kind = d.kind) (table : String) :
    (c.statement table).text = (d.statement table).text := by
  cases c <;> cases d <;> cases h <;> try rfl
  next operation tags more => cases operation <;> rfl

theorem binds_statement (c : Call) (table : String) : (c.statement table).binds = c.values := by
  cases c with
  | applyTags operation tags => cases operation <;> rfl
  | _ => rfl

theorem statement_not_mem_schema (c : Call) (table : String) : c.statement table ∉ schema table := by
  -- The statements of a schema have no bound values, and all others have some.
  intro h
  have hbinds : (c.statement table).binds = [] := by
    simp only [schema, List.mem_cons, List.not_mem_nil, or_false] at h
    rcases h with h | h | h <;> rw [h] <;> rfl
  rw [binds_statement] at hbinds
  cases c <;> cases hbinds

end Call

/-- The bin with a server that logs. -/
def logged (b : Bin σ) : Bin (Logged σ) := ⟨b.name, b.ready, ⟨b.server, []⟩⟩

/-- What is exchanged when a statement is run. -/
def exchangedBy (s : Statement) (b : Bin σ) : List Exchange :=
  if b.ready then [⟨s, (b.run s).result⟩]
  else exchanged (schema b.table) b.server ++
    if b.prepare.result.isOk then [⟨s, (b.run s).result⟩] else []

/-- The log changes nothing. -/
theorem run_logged (s : Statement) (b : Bin σ) :
    b.logged.run s = ⟨(b.run s).elapsed, (b.run s).result,
      ⟨(b.run s).bin.name, (b.run s).bin.ready, ⟨(b.run s).bin.server, b.exchangedBy s⟩⟩⟩ := by
  obtain ⟨name, ready, server⟩ := b
  cases ready with
  | true => rfl
  | false =>
    simp only [logged, run, prepare, exchangedBy, table, sendAll_logged, Bool.false_eq_true, if_false,
      List.nil_append]
    cases (sendAll (schema (tableOf name)) server).result with
    | error fault => simp [Except.isOk, Except.toBool]
    | ok row? => simp [Except.isOk, Except.toBool, Server.send]

/-- A statement is sent at once when the tables are known to exist, and otherwise behind the whole schema or
not at all. -/
theorem run_cases (s : Statement) (b : Bin σ) :
    (b.ready = true ∧ b.exchangedBy s = [⟨s, (b.run s).result⟩] ∧ (b.run s).bin.ready = true) ∨
    (b.ready = false ∧ ∃ fault, (b.run s).result = .error fault ∧
      Stopped (schema b.table) fault (b.exchangedBy s) ∧ (b.run s).bin.ready = false) ∨
    (b.ready = false ∧ ∃ setup, Done (schema b.table) setup ∧
      b.exchangedBy s = setup ++ [⟨s, (b.run s).result⟩] ∧ (b.run s).bin.ready = true) := by
  obtain ⟨name, ready, server⟩ := b
  cases ready with
  | true => exact .inl ⟨rfl, rfl, rfl⟩
  | false =>
    rcases sendAll_cases (schema (tableOf name)) server with ⟨⟨row?, hr⟩, hdone⟩ | ⟨fault, hr, hstop⟩
    · refine .inr (.inr ⟨rfl, _, hdone, ?_, ?_⟩)
      · simp [exchangedBy, prepare, table, hr, Except.isOk, Except.toBool]
      · simp [run, prepare, table, hr, Except.isOk, Except.toBool]
    · refine .inr (.inl ⟨rfl, fault, ?_, ?_, ?_⟩)
      · simp [run, prepare, table, hr]
      · simpa [exchangedBy, prepare, table, hr, Except.isOk, Except.toBool] using hstop
      · simp [run, prepare, table, hr, Except.isOk, Except.toBool]

/-! ## Operations one after another -/

/-- An operation of a run with what it exchanged and answered. -/
structure Turn where
  call : Call
  exchanges : List Exchange
  answer : Except BinFault (Option Lookup)

/-- The exchanges are those that the server logs. -/
def turn (c : Call) (b : Bin σ) : Turn :=
  ⟨c, (c.apply b.logged).2.server.exchanges, (c.apply b).1⟩

def turns : List Call → Bin σ → List Turn
  | [], _ => []
  | c :: rest, b => turn c b :: turns rest (c.apply b).2

/-- The whole schema went through in one go. -/
def SetsUp (table : String) (xs : List Exchange) : Prop :=
  ∃ setup rest, Done (schema table) setup ∧ xs = setup ++ rest

/-- How an operation goes. It sends nothing, or stops at a statement of the schema, or gets to its own
statement, behind the schema when the tables are not known to exist. -/
inductive Goes (table : String) (known : Bool) (t : Turn) : Prop where
  | silent (hcall : t.call.isSilent = true) (hx : t.exchanges = []) (ha : t.answer = .ok none)
  | stopped {fault : DatabaseFault} (hcall : t.call.isSilent = false) (hknown : known = false)
      (hx : Stopped (schema table) fault t.exchanges) (ha : t.answer = .error (.database fault))
  | served {setup : List Exchange} {result : Except DatabaseFault (Option Row)}
      (hcall : t.call.isSilent = false) (hsetup : if known then setup = [] else Done (schema table) setup)
      (hx : t.exchanges = setup ++ [⟨t.call.statement table, result⟩]) (ha : t.answer = t.call.answer result)

theorem not_setsUp_nil (table : String) : ¬ SetsUp table [] := by
  rintro ⟨setup, rest, ⟨hmap, -⟩, hx⟩
  obtain ⟨rfl, -⟩ := List.append_eq_nil_iff.mp hx.symm
  cases hmap

theorem name_run (s : Statement) (b : Bin σ) : (b.run s).bin.name = b.name := by
  have hprepare : b.prepare.bin.name = b.name := by
    unfold prepare
    split <;> rfl
  unfold run
  simp only
  split
  · exact hprepare
  · exact hprepare

theorem goes_turn (c : Call) (b : Bin σ) : Goes b.table b.ready (turn c b) ∧ (c.apply b).2.name = b.name ∧
    ((c.apply b).2.ready = true ↔ b.ready = true ∨ SetsUp b.table (turn c b).exchanges) := by
  cases hcall : c.isSilent with
  | true =>
    have happly : c.apply b = (.ok none, b) := by rw [c.apply_eq, hcall, if_pos rfl]
    have hx : (turn c b).exchanges = [] := by
      rw [turn, c.apply_eq, hcall, if_pos rfl]
      rfl
    refine ⟨.silent hcall hx (by rw [turn, happly]), by rw [happly], ?_⟩
    rw [happly, hx]
    exact (or_iff_left (not_setsUp_nil _)).symm
  | false =>
    let s := c.statement b.table
    have happly : c.apply b = (c.answer (b.run s).result, (b.run s).bin) := by
      rw [c.apply_eq, hcall, if_neg Bool.false_ne_true]
    have ha : (turn c b).answer = c.answer (b.run s).result := by rw [turn, happly]
    have hx : (turn c b).exchanges = b.exchangedBy s := by
      have hlog := b.run_logged s
      rw [turn, c.apply_eq, hcall, if_neg Bool.false_ne_true]
      exact congrArg (fun r => r.bin.server.exchanges) hlog
    refine ⟨?_, by rw [happly, name_run], ?_⟩
    · rcases b.run_cases s with ⟨hk, he, -⟩ | ⟨hk, fault, hr, hstop, -⟩ | ⟨hk, setup, hdone, he, -⟩
      · have hsetup : if b.ready then ([] : List Exchange) = [] else Done (schema b.table) [] := by
          rw [hk, if_pos rfl]
        exact .served hcall hsetup (hx.trans he) ha
      · exact .stopped hcall hk (hx ▸ hstop) (by rw [ha, hr]; rfl)
      · exact .served hcall (by rw [hk, if_neg Bool.false_ne_true]; exact hdone) (hx.trans he) ha
    · rw [happly, hx]
      rcases b.run_cases s with ⟨hk, -, hready⟩ | ⟨hk, fault, -, hstop, hready⟩ | ⟨-, setup, hdone, he, hready⟩
      · exact iff_of_true hready (.inl hk)
      · refine iff_of_false (by simp [hready]) ?_
        rintro (hk' | ⟨setup, rest, hdone, he⟩)
        · rw [hk] at hk'
          cases hk'
        · exact hstop.not_done he hdone
      · exact iff_of_true hready (.inr ⟨setup, _, hdone, he⟩)

theorem Goes.not_mem_schema {table : String} {t : Turn} (h : Goes table true t) :
    ∀ x ∈ t.exchanges, x.statement ∉ schema table := by
  intro x hx
  cases h with
  | silent _ hnil _ =>
    rw [hnil] at hx
    cases hx
  | stopped _ hknown _ _ => cases hknown
  | served _ hsetup hown _ =>
    obtain rfl := hsetup
    rw [hown] at hx
    rw [List.mem_singleton.mp hx]
    exact t.call.statement_not_mem_schema table

/-- An operation of a bin whose tables are not known to exist starts with the first statement of the schema. -/
theorem Goes.starts {table : String} {t : Turn} (h : Goes table false t) (hcall : t.call.isSilent = false) :
    (t.exchanges.map (·.statement)).head? = some createCounters := by
  have hfirst (xs ys : List Exchange) (more : List Statement) (hne : xs ≠ [])
      (hschema : schema table = xs.map (·.statement) ++ more) :
      ((xs ++ ys).map (·.statement)).head? = some createCounters := by
    cases xs with
    | nil => exact absurd rfl hne
    | cons x xs => exact congrArg some (List.cons.inj hschema).1.symm
  cases h with
  | silent hsilent _ _ =>
    rw [hcall] at hsilent
    cases hsilent
  | stopped _ _ hstop _ =>
    obtain ⟨before, s, rest, hx, hschema, -⟩ := hstop
    rw [hx, ← List.append_nil (before ++ _)]
    refine hfirst _ _ rest (by simp) ?_
    rw [hschema, List.map_append, List.append_assoc]
    rfl
  | served _ hsetup hx _ =>
    rw [if_neg Bool.false_ne_true] at hsetup
    rw [hx]
    refine hfirst _ _ [] ?_ (by rw [List.append_nil, hsetup.1])
    rintro rfl
    cases hsetup.1

/-- Each operation goes as the operations before it say. -/
theorem goes_turns {calls : List Call} {b : Bin σ} {before after : List Turn} {t : Turn}
    (h : turns calls b = before ++ t :: after) :
    ∃ known, (known = true ↔ b.ready = true ∨ ∃ u ∈ before, SetsUp b.table u.exchanges) ∧
      Goes b.table known t := by
  induction calls generalizing b before with
  | nil => cases before <;> cases h
  | cons c rest ih =>
    obtain ⟨hgoes, hname, hready⟩ := goes_turn c b
    have htable : (c.apply b).2.table = b.table := congrArg tableOf hname
    cases before with
    | nil =>
      obtain ⟨rfl, -⟩ := List.cons.inj h
      exact ⟨b.ready, by simp, hgoes⟩
    | cons u before =>
      obtain ⟨rfl, hrest⟩ := List.cons.inj h
      obtain ⟨known, hknown, ht⟩ := ih hrest
      refine ⟨known, ?_, htable ▸ ht⟩
      rw [hknown, hready, htable, List.exists_mem_cons_iff, or_assoc]

theorem calls_turns (calls : List Call) (b : Bin σ) : (turns calls b).map (·.call) = calls := by
  induction calls generalizing b with
  | nil => rfl
  | cons c rest ih =>
    rw [turns, List.map_cons, ih]
    rfl

/-- Whatever the server makes of each statement, an operation sends its own statement only when the whole
schema went through before, in one go and in order, and from then on no statement of the schema is sent
again. A statement of the schema that fails ends its operation with that fault, and the next one starts
from the first. What an operation asks decides on the text of its statement, its values are bound. -/
theorem schema_precedes_data (name : String) (server : σ) (calls : List Call) :
    (turns calls (.new name server)).map (·.call) = calls ∧
    (∀ before t after, turns calls (.new name server) = before ++ t :: after →
      ∃ known, (known = true ↔ ∃ u ∈ before, SetsUp (tableOf name) u.exchanges) ∧
        Goes (tableOf name) known t ∧
        (known = true → ∀ x ∈ t.exchanges, x.statement ∉ schema (tableOf name)) ∧
        (known = false → t.call.isSilent = false →
          (t.exchanges.map (·.statement)).head? = some createCounters)) ∧
    (∀ c : Call, c.statement (tableOf name) ∉ schema (tableOf name)) ∧
    (∀ c d : Call, c.kind = d.kind → (c.statement (tableOf name)).text = (d.statement (tableOf name)).text) ∧
    (∀ c : Call, (c.statement (tableOf name)).binds = c.values) ∧
    ∀ s ∈ schema (tableOf name), s.binds = [] := by
  refine ⟨calls_turns _ _, fun before t after h => ?_, fun c => c.statement_not_mem_schema _,
    fun c d h => Call.text_statement h _, fun c => c.binds_statement _, fun s hs => ?_⟩
  · obtain ⟨known, hknown, hgoes⟩ := goes_turns h
    refine ⟨known, hknown.trans (or_iff_right Bool.false_ne_true), hgoes, ?_, ?_⟩
    · rintro rfl
      exact hgoes.not_mem_schema
    · rintro rfl hcall
      exact hgoes.starts hcall
  · simp only [schema, List.mem_cons, List.not_mem_nil, or_false] at hs
    rcases hs with rfl | rfl | rfl <;> rfl

/-- A server that ends its first statements as the list says, and all others well. -/
structure Script where
  results : List (Except DatabaseFault (Option Row))

instance : Server Script where
  send _ s := ⟨0, s.results.headD (.ok none), ⟨s.results.tail⟩⟩

/-- The second statement of the schema fails at first. The operation after that sends the whole schema, and
the next one its own statement only. -/
theorem schema_precedes_data_restart :
    let calls : List Call := [.delete "k", .applyTags .invalidate .empty, .delete "k"]
    let table := tableOf "page"
    ∃ t u v, turns calls (.new "page" (⟨[.ok none, .error .poolTimedOut]⟩ : Script)) = [t, u] ++ v :: [] ∧
      t.exchanges.map (·.statement) = [createCounters, createTable table] ∧
      t.answer = .error (.database .poolTimedOut) ∧
      u.exchanges.map (·.statement) = schema table ++ [raiseCounters .empty] ∧
      v.exchanges.map (·.statement) = [deleteRow table "k"] ∧
      ∃ known, (known = true ↔ ∃ w ∈ [t, u], SetsUp table w.exchanges) ∧ Goes table known v := by
  intro calls table
  refine ⟨_, _, _, rfl, rfl, rfl, rfl, rfl, ?_⟩
  obtain ⟨known, hknown, hgoes, -⟩ :=
    (schema_precedes_data "page" (⟨[.ok none, .error .poolTimedOut]⟩ : Script) calls).2.1 [_, _] _ [] rfl
  exact ⟨known, hknown, hgoes⟩

end Bin
end Sql
end TaggedCache

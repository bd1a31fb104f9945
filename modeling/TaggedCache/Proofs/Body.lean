import TaggedCache.Http.Body

/-!
# Reading bodies

A body is read as a whole exactly when nothing in it fails and it is not too long
(`buffer_eq_complete_iff`). The body that takes its place otherwise delivers the same
(`delivered_of_passthrough`). Of a body that only its end can fail, every chunk comes back
(`buffer_lossless`).
-/

namespace TaggedCache
namespace Body

/-- What a reader gets from some chunks: the bytes up to the first error, and this error. -/
def deliver : List (Except String Bytes) → Bytes × Option String
  | [] => ([], none)
  | .ok chunk :: rest => (chunk ++ (deliver rest).1, (deliver rest).2)
  | .error e :: _ => ([], some e)

def delivered (b : Body) : Bytes × Option String := deliver b.chunks

/-- A body can be read as a whole: nothing in it fails, and neither its length nor what is known of it
beforehand exceeds the limit. -/
structure Fits (limit : Nat) (b : Body) : Prop where
  faultless : b.lastError? = none
  length : b.bytes.length ≤ limit
  atLeast : b.atLeast ≤ limit

variable {limit total : Nat} {done : List Bytes} {bytes : Bytes} {b body : Body}
  {chunks : List (Except String Bytes)}

theorem deliver_append (front : List Bytes) (chunks : List (Except String Bytes)) :
    deliver (front.map .ok ++ chunks) = (front.flatten ++ (deliver chunks).1, (deliver chunks).2) := by
  induction front with
  | nil => rfl
  | cons chunk rest ih =>
    rw [List.map_cons, List.cons_append, deliver, ih, List.flatten_cons, List.append_assoc]

theorem deliver_ok (all : List Bytes) : deliver (all.map .ok) = (all.flatten, none) := by
  have h := deliver_append all []
  rwa [List.append_nil, deliver, List.append_nil] at h

/-- A body of which nothing fails is a list of chunks. -/
theorem lastError?_eq_none_iff : b.lastError? = none ↔ ∃ all : List Bytes, b.chunks = all.map .ok := by
  unfold lastError?
  rw [List.getLast?_eq_none_iff]
  generalize b.chunks = chunks
  constructor
  · intro h
    induction chunks with
    | nil => exact ⟨[], rfl⟩
    | cons chunk rest ih =>
      cases chunk with
      | error e => cases h
      | ok chunk =>
        obtain ⟨all, rfl⟩ := ih h
        exact ⟨chunk :: all, rfl⟩
  · rintro ⟨all, rfl⟩
    simp [List.filterMap_map]

theorem bytes_of_chunks {all : List Bytes} (h : b.chunks = all.map .ok) : b.bytes = all.flatten := by
  unfold bytes
  rw [h, List.flatMap_map]
  simp

theorem bufferFrom_eq_complete_iff (h : total ≤ limit) :
    bufferFrom limit done total chunks = .complete bytes ↔ ∃ more : List Bytes, chunks = more.map .ok ∧
      total + more.flatten.length ≤ limit ∧ bytes = done.reverse.flatten ++ more.flatten := by
  induction chunks generalizing done total with
  | nil =>
    constructor
    · intro hc
      obtain rfl := Buffered.complete.inj hc
      exact ⟨[], rfl, h, by simp⟩
    · rintro ⟨more, hm, -, rfl⟩
      obtain rfl := List.map_eq_nil_iff.mp hm.symm
      simp [bufferFrom]
  | cons chunk rest ih =>
    cases chunk with
    | error e =>
      constructor
      · intro hc
        cases hc
      · rintro ⟨more, hm, -⟩
        cases more <;> cases hm
    | ok chunk =>
      unfold bufferFrom
      split
      · next hlong =>
        constructor
        · intro hc
          cases hc
        · rintro ⟨more, hm, hl, -⟩
          obtain ⟨first, more, rfl, hfirst, -⟩ := List.map_eq_cons_iff.mp hm.symm
          obtain rfl := Except.ok.inj hfirst
          rw [List.flatten_cons, List.length_append] at hl
          omega
      · next hshort =>
        rw [ih (by omega)]
        constructor
        · rintro ⟨more, rfl, hl, rfl⟩
          refine ⟨chunk :: more, rfl, ?_, by simp⟩
          rw [List.flatten_cons, List.length_append]
          omega
        · rintro ⟨more, hm, hl, rfl⟩
          obtain ⟨first, more, rfl, hfirst, rfl⟩ := List.map_eq_cons_iff.mp hm.symm
          obtain rfl := Except.ok.inj hfirst
          rw [List.flatten_cons, List.length_append] at hl
          exact ⟨more, rfl, by omega, by simp⟩

theorem buffer_eq_complete_iff : b.buffer limit = .complete bytes ↔ b.Fits limit ∧ bytes = b.bytes := by
  unfold buffer
  split
  · next hlong =>
    constructor
    · intro hc
      cases hc
    · rintro ⟨hfits, -⟩
      have := hfits.atLeast
      omega
  · next hhint =>
    rw [bufferFrom_eq_complete_iff (Nat.zero_le limit)]
    constructor
    · rintro ⟨more, hm, hl, rfl⟩
      have hbytes := bytes_of_chunks hm
      refine ⟨⟨lastError?_eq_none_iff.mpr ⟨more, hm⟩, ?_, by omega⟩, by simp [hbytes]⟩
      rw [hbytes]
      omega
    · rintro ⟨hfits, rfl⟩
      obtain ⟨more, hm⟩ := lastError?_eq_none_iff.mp hfits.faultless
      have hl := hfits.length
      rw [bytes_of_chunks hm] at hl ⊢
      exact ⟨more, hm, by omega, by simp⟩

/-- The chunks that were read come first again. -/
theorem deliver_of_passthrough (h : bufferFrom limit done total chunks = .passthrough body) :
    body.delivered = deliver (done.reverse.map .ok ++ chunks) := by
  induction chunks generalizing done total with
  | nil => cases h
  | cons chunk rest ih =>
    cases chunk with
    | error e =>
      obtain rfl := Buffered.passthrough.inj h
      show deliver (done.reverse.map .ok ++ [.error e]) = _
      rw [deliver_append, deliver_append]
      rfl
    | ok chunk =>
      unfold bufferFrom at h
      split at h
      · obtain rfl := Buffered.passthrough.inj h
        simp [delivered, ofChunks]
      · rw [ih h]
        simp

theorem delivered_of_passthrough (h : b.buffer limit = .passthrough body) :
    body.delivered = b.delivered := by
  unfold buffer at h
  split at h
  · rw [← Buffered.passthrough.inj h]
  · exact deliver_of_passthrough h

theorem delivered_ofBytes (bytes : Bytes) : (ofBytes bytes).delivered = (bytes, none) := by
  unfold delivered ofBytes
  split
  · next h => rw [h]; rfl
  · simp [deliver]

theorem delivered_of_complete (h : b.buffer limit = .complete bytes) :
    (ofBytes bytes).delivered = b.delivered := by
  obtain ⟨hfits, rfl⟩ := buffer_eq_complete_iff.mp h
  obtain ⟨all, hall⟩ := lastError?_eq_none_iff.mp hfits.faultless
  rw [delivered_ofBytes, delivered, hall, deliver_ok, bytes_of_chunks hall]

/-! ## Bodies with an error at their end at most -/

/-- A body of some chunks, with nothing or an error behind them. -/
def ending (atLeast : Nat) (all : List Bytes) (error? : Option String) : Body :=
  ⟨all.map .ok ++ (error?.map .error).toList, atLeast⟩

variable {atLeast : Nat} {all : List Bytes} {error? : Option String}

/-- No chunk is lost and none comes twice, wherever the reading stops. -/
theorem chunks_of_passthrough
    (h : bufferFrom limit done total (all.map .ok ++ (error?.map .error).toList) = .passthrough body) :
    body.chunks = (done.reverse ++ all).map .ok ++ (error?.map .error).toList := by
  induction all generalizing done total with
  | nil =>
    cases error? with
    | none => cases h
    | some e =>
      obtain rfl := Buffered.passthrough.inj h
      simp [ofChunks]
  | cons chunk rest ih =>
    rw [List.map_cons, List.cons_append, bufferFrom] at h
    split at h
    · obtain rfl := Buffered.passthrough.inj h
      simp [ofChunks]
    · rw [ih h]
      simp

theorem chunks_of_buffer_ending (h : (ending atLeast all error?).buffer limit = .passthrough body) :
    body.chunks = (ending atLeast all error?).chunks := by
  unfold buffer at h
  split at h
  · rw [← Buffered.passthrough.inj h]
  · exact chunks_of_passthrough h

theorem delivered_ending : (ending atLeast all error?).delivered = (all.flatten, error?) := by
  rw [delivered, ending, deliver_append]
  cases error? <;> simp [deliver]

theorem fits_ending : (ending atLeast all error?).Fits limit ↔
    error? = none ∧ all.flatten.length ≤ limit ∧ atLeast ≤ limit := by
  cases error? with
  | none =>
    have hall : (ending atLeast all none).chunks = all.map .ok := List.append_nil _
    have hbytes := bytes_of_chunks hall
    constructor
    · exact fun h => ⟨rfl, hbytes ▸ h.length, h.atLeast⟩
    · exact fun ⟨_, hlength, hhint⟩ => ⟨lastError?_eq_none_iff.mpr ⟨all, hall⟩, hbytes ▸ hlength, hhint⟩
  | some e =>
    refine iff_of_false (fun h => ?_) (by simp)
    obtain ⟨more, hmore⟩ := lastError?_eq_none_iff.mp h.faultless
    have hmem : .error e ∈ (ending atLeast all (some e)).chunks :=
      List.mem_append_right _ (List.mem_singleton_self _)
    rw [hmore] at hmem
    obtain ⟨chunk, -, hchunk⟩ := List.mem_map.mp hmem
    cases hchunk

/-- A body that ends well and is not too long is read as a whole, with all its bytes, and no other one is. The
body that takes the place of another one has the same chunks in the same order, and the same error behind them.
What is known beforehand of the length has to be true only of a body that ends well: an error may come before
all that was announced. -/
theorem buffer_lossless (limit atLeast : Nat) (all : List Bytes) (error? : Option String)
    (h : error? = none → atLeast ≤ all.flatten.length) :
    (∀ bytes, (ending atLeast all error?).buffer limit = .complete bytes ↔
      bytes = all.flatten ∧ error? = none ∧ all.flatten.length ≤ limit) ∧
    (¬ (error? = none ∧ all.flatten.length ≤ limit) →
      ∃ body, (ending atLeast all error?).buffer limit = .passthrough body ∧
        body.chunks = (ending atLeast all error?).chunks ∧ body.delivered = (all.flatten, error?)) := by
  have hcomplete (bytes : Bytes) : (ending atLeast all error?).buffer limit = .complete bytes ↔
      bytes = all.flatten ∧ error? = none ∧ all.flatten.length ≤ limit := by
    rw [buffer_eq_complete_iff, fits_ending, and_comm]
    constructor
    · rintro ⟨rfl, rfl, hlength, -⟩
      exact ⟨bytes_of_chunks (List.append_nil _), rfl, hlength⟩
    · rintro ⟨rfl, rfl, hlength⟩
      exact ⟨(bytes_of_chunks (List.append_nil _)).symm, rfl, hlength, Nat.le_trans (h rfl) hlength⟩
  refine ⟨hcomplete, fun hnot => ?_⟩
  cases hbuffer : (ending atLeast all error?).buffer limit with
  | complete bytes => exact absurd ((hcomplete bytes).mp hbuffer).2 hnot
  | passthrough body =>
    exact ⟨body, rfl, chunks_of_buffer_ending hbuffer, (delivered_of_passthrough hbuffer).trans delivered_ending⟩

/-- Three bytes are read as a whole up to a limit of three. With a smaller one, or an error behind them, they
come back. -/
theorem buffer_lossless_limit :
    2 ≤ ([[1, 2], [], [3]] : List Bytes).flatten.length ∧
      (ending 2 [[1, 2], [], [3]] none).buffer 3 = .complete [1, 2, 3] ∧
      (∃ body, (ending 2 [[1, 2], [], [3]] none).buffer 2 = .passthrough body ∧
        body.chunks = [.ok [1, 2], .ok [], .ok [3]] ∧ body.delivered = ([1, 2, 3], none)) ∧
      ∃ body, (ending 9 [[1, 2], [], [3]] (some "reset")).buffer 9 = .passthrough body ∧
        body.chunks = [.ok [1, 2], .ok [], .ok [3], .error "reset"] ∧
        body.delivered = ([1, 2, 3], some "reset") := by
  have hlength : 2 ≤ ([[1, 2], [], [3]] : List Bytes).flatten.length := by decide
  exact ⟨hlength, ((buffer_lossless 3 2 _ none fun _ => hlength).1 _).mpr ⟨rfl, rfl, by decide⟩,
    (buffer_lossless 2 2 _ none fun _ => hlength).2 (by decide),
    (buffer_lossless 9 9 _ (some "reset") nofun).2 nofun⟩

end Body
end TaggedCache

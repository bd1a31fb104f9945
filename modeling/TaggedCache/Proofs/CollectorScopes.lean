import TaggedCache.Proofs.Collector

/-!
# Collectors inside collectors

What a block of steps collects is read off the reports made directly in it (`total`), and what is seen
while it runs off the steps made so far in the innermost open block (`observed`). Neither knows of a stack
of collectors. Running steps gives just that, at every depth (`run_scoped`).
-/

namespace TaggedCache
namespace Collector

/-! ## Reports -/

/-- What is reported to a collector. -/
inductive Entry where
  | artifact (metadata : Metadata)
  | tags (tags : TagSet)

def Entry.addTo (m : Metadata) : Entry → Metadata
  | .artifact a => m.addPart a
  | .tags ts => m.addTags ts

mutual
/-- The reports made directly by some steps, in order. Of a block inside them there is at most one report:
what it collected, when that is passed on. -/
def entries : List Step → List Entry
  | [] => []
  | step :: rest => entriesOf step ++ entries rest

def entriesOf : Step → List Entry
  | .record artifact => [.artifact artifact]
  | .recordTags tags => [.tags tags]
  | .pause => []
  | .nested steps passOn =>
    if passOn then [.artifact ((entries steps).foldl Entry.addTo .empty)] else []
end

/-- The sum of the reports made directly by some steps. -/
def total (steps : List Step) : Metadata := (entries steps).foldl Entry.addTo .empty

mutual
theorem foldl_take (m : Metadata) :
    (steps : List Step) → steps.foldl take m = (entries steps).foldl Entry.addTo m
  | [] => by rw [entries]; rfl
  | step :: rest => by
    rw [List.foldl_cons, take_eq m step, foldl_take _ rest, entries, List.foldl_append]

theorem take_eq (m : Metadata) : (step : Step) → take m step = (entriesOf step).foldl Entry.addTo m
  | .record artifact => by rw [entriesOf]; rfl
  | .recordTags tags => by rw [entriesOf]; rfl
  | .pause => by rw [entriesOf]; rfl
  | .nested steps passOn => by
    rw [entriesOf, take, collect_eq, foldl_take .empty steps]
    cases passOn with
    | false => rfl
    | true => rfl
end

theorem collect_eq_total (steps : List Step) : collect steps = total steps := by
  rw [collect_eq, foldl_take, total]

theorem total_concat (steps : List Step) (step : Step) : total (steps ++ [step]) = take (total steps) step := by
  rw [← collect_eq_total, ← collect_eq_total, collect_eq, collect_eq, List.foldl_append]
  rfl

/-! ## What is seen -/

mutual
/-- What is seen while steps run in a block in which some others were made `before`; outside every block
there are none of these. -/
def observed (before : Option (List Step)) : List Step → List Event
  | [] => []
  | step :: rest =>
    within step ++ .seen (before.map fun steps => total (steps ++ [step]))
      :: observed (before.map (· ++ [step])) rest

/-- What is seen inside the block of a step, and what that returns. -/
def within : Step → List Event
  | .record _ | .recordTags _ | .pause => []
  | .nested steps _ => [.nested (observed (some []) steps) (total steps)]
end

variable {c : Collector} {before : Option (List Step)}

mutual
theorem run_nil : (steps : List Step) → (run [] steps).2 = []
  | [] => rfl
  | step :: rest => by
    rw [run]
    simp only
    rw [runStep_nil step, run_nil rest]

theorem runStep_nil : (step : Step) → (runStep [] step).2 = []
  | .record _ => rfl
  | .recordTags _ => rfl
  | .pause => rfl
  | .nested steps passOn => by
    rw [runStep]
    simp only
    rw [run_snd]
    cases passOn with
    | false => rfl
    | true => rfl
end

/-- The innermost collector goes on from the steps made so far in its block. -/
theorem current?_runStep (step : Step) (h : c.current? = before.map total) :
    (runStep c step).2.current? = before.map fun steps => total (steps ++ [step]) := by
  cases before with
  | none =>
    obtain rfl : c = [] := List.head?_eq_none_iff.mp h
    rw [runStep_nil]
    rfl
  | some steps =>
    cases c with
    | nil => cases h
    | cons m outer =>
      obtain rfl : m = total steps := Option.some.inj h
      rw [runStep_snd, Option.map_some, total_concat]
      rfl

mutual
theorem run_fst (c : Collector) (before : Option (List Step)) (h : c.current? = before.map total) :
    (steps : List Step) → (run c steps).1 = observed before steps
  | [] => by rw [observed]; rfl
  | step :: rest => by
    have hstep := current?_runStep step h
    have hnext : (runStep c step).2.current? = (before.map (· ++ [step])).map total := by
      rw [hstep, Option.map_map]
      rfl
    rw [run, observed]
    simp only
    rw [runStep_fst c step, hstep, run_fst _ _ hnext rest]

theorem runStep_fst (c : Collector) : (step : Step) → (runStep c step).1 = within step
  | .record _ => by rw [within]; rfl
  | .recordTags _ => by rw [within]; rfl
  | .pause => by rw [within]; rfl
  | .nested steps _ => by
    -- The block starts with a collector of its own, whatever is open around it.
    have hinner : Collector.current? (.empty :: c) = (some []).map total := by
      rw [Option.map_some, total, entries]
      rfl
    rw [runStep, within]
    simp only
    rw [run_fst _ _ hinner steps, run_snd, ← collect_eq, collect_eq_total]
    rfl
end

/-- A block returns the sum of the reports made directly in it, and leaves the collectors around it as they
were but for what it passes on. What is current after a step is the sum of the reports made so far in the
innermost open block, at every depth. Outside every block nothing is current and nothing is kept. -/
theorem run_scoped (steps : List Step) :
    collect steps = total steps ∧
    (∀ outer, run (.empty :: outer) steps = (observed (some []) steps, total steps :: outer)) ∧
    (∀ m outer passOn, runStep (m :: outer) (.nested steps passOn) =
      ([.nested (observed (some []) steps) (total steps)],
        (if passOn then m.addPart (total steps) else m) :: outer)) ∧
    run [] steps = (observed none steps, []) := by
  refine ⟨collect_eq_total steps, fun outer => ?_, fun m outer passOn => ?_, ?_⟩
  · refine Prod.ext (run_fst _ (some []) ?_ steps) ?_
    · rw [Option.map_some, total, entries]
      rfl
    · rw [run_snd, ← collect_eq, collect_eq_total]
  · refine Prod.ext ((runStep_fst _ _).trans (by rw [within])) ?_
    rw [runStep_snd, take, collect_eq_total]
  · exact Prod.ext (run_fst [] none rfl steps) (run_nil steps)

end Collector
end TaggedCache

import TaggedCache.Collector

/-!
# What a collector gathers

A collector sums up the steps made directly under it, one after another (`collect_eq`). So its sum may be
stored only when everything reported to it may (`shouldStore_of_mem`), and has the tags that were reported
(`mem_tags_collect`).
-/

namespace TaggedCache

/-! ## Sums -/

theorem MaxAge.isZero_min (a b : MaxAge) : (a.min b).isZero = (a.isZero || b.isZero) := by
  cases a with
  | permanent => cases b <;> simp [MaxAge.min, compare, isZero, zero]
  | seconds m =>
    cases b with
    | permanent => simp [MaxAge.min, compare, isZero, zero]
    | seconds n =>
      have hm : m = 0 ↔ m.toNat = 0 := by rw [← UInt32.toNat_inj]; rfl
      have hn : n = 0 ↔ n.toNat = 0 := by rw [← UInt32.toNat_inj]; rfl
      simp only [MaxAge.min, compare, isZero, zero]
      split <;> split <;> simp_all [UInt32.lt_iff_toNat_lt, ← UInt32.toNat_inj] <;> omega

namespace Metadata

@[simp] theorem shouldStore_empty : empty.shouldStore = true := rfl

@[simp] theorem shouldStore_addPart (m part : Metadata) :
    (m.addPart part).shouldStore = (m.shouldStore && part.shouldStore) := by
  unfold shouldStore addPart
  rw [MaxAge.isZero_min]
  cases m.cacheable <;> cases part.cacheable <;> cases m.maxAge.isZero <;> simp

end Metadata

namespace Collector

/-! ## Steps -/

/-- What a collector holds after one more step. -/
def take (m : Metadata) : Step → Metadata
  | .record artifact => m.addPart artifact
  | .recordTags tags => m.addTags tags
  | .pause => m
  | .nested steps passOn => if passOn then m.addPart (collect steps) else m

variable {m : Metadata} {steps : List Step} {step : Step} {t : Tag}

mutual
theorem run_snd (m : Metadata) (outer : Collector) :
    (steps : List Step) → (run (m :: outer) steps).2 = steps.foldl take m :: outer
  | [] => rfl
  | step :: rest => by
    rw [run]
    simp only
    rw [runStep_snd m outer step, run_snd (take m step) outer rest]
    rfl

theorem runStep_snd (m : Metadata) (outer : Collector) :
    (step : Step) → (runStep (m :: outer) step).2 = take m step :: outer
  | .record artifact => rfl
  | .recordTags tags => rfl
  | .pause => rfl
  | .nested steps passOn => by
    have hcollect : collect steps = steps.foldl take .empty := by
      rw [collect, run_snd .empty [] steps]
      rfl
    rw [runStep]
    simp only
    rw [run_snd .empty (m :: outer) steps, take, hcollect]
    cases passOn <;> rfl
end

/-- A collector sums up the steps one after another. -/
theorem collect_eq (steps : List Step) : collect steps = steps.foldl take .empty := by
  rw [collect, run_snd]
  rfl

/-- A part that does not pass on what it collects leaves no trace. -/
theorem collect_around (before after inner : List Step) :
    collect (before ++ .nested inner false :: after) = collect (before ++ after) := by
  rw [collect_eq, collect_eq, List.foldl_append, List.foldl_append]
  rfl

/-! ## What may be stored -/

theorem shouldStore_foldl (h : (steps.foldl take m).shouldStore = true) :
    m.shouldStore = true ∧ ∀ a, .record a ∈ steps → a.shouldStore = true := by
  induction steps generalizing m with
  | nil => exact ⟨h, by simp⟩
  | cons step rest ih =>
    have ⟨htaken, hrest⟩ := ih h
    have hstep : m.shouldStore = true ∧ ∀ a, step = .record a → a.shouldStore = true := by
      cases step with
      | record artifact =>
        rw [take, Metadata.shouldStore_addPart, Bool.and_eq_true] at htaken
        refine ⟨htaken.1, fun a ha => ?_⟩
        obtain rfl := Step.record.inj ha
        exact htaken.2
      | recordTags tags => exact ⟨htaken, nofun⟩
      | pause => exact ⟨htaken, nofun⟩
      | nested steps passOn =>
        refine ⟨?_, nofun⟩
        cases passOn with
        | false => exact htaken
        | true =>
          rw [take, if_pos rfl, Metadata.shouldStore_addPart, Bool.and_eq_true] at htaken
          exact htaken.1
    refine ⟨hstep.1, fun a ha => ?_⟩
    rcases List.mem_cons.mp ha with ha | ha
    · exact hstep.2 a ha.symm
    · exact hrest a ha

/-- A report that may not be stored keeps the sum from being stored. -/
theorem shouldStore_of_mem {a : Metadata} (h : .record a ∈ steps) (ha : a.shouldStore = false) :
    (collect steps).shouldStore = false := by
  cases hc : (collect steps).shouldStore with
  | false => rfl
  | true =>
    rw [collect_eq] at hc
    rw [(shouldStore_foldl hc).2 a h] at ha
    cases ha

/-! ## Tags -/

mutual
/-- The tag is among what some steps report to the collector around them. -/
def Reported (t : Tag) : List Step → Prop
  | [] => False
  | step :: rest => ReportedBy t step ∨ Reported t rest

/-- The tag is among what a step reports to the collector around it. -/
def ReportedBy (t : Tag) : Step → Prop
  | .record artifact => t ∈ artifact.tags
  | .recordTags tags => t ∈ tags
  | .pause => False
  | .nested steps passOn => passOn = true ∧ Reported t steps
end

mutual
theorem mem_tags_foldl (t : Tag) (m : Metadata) :
    (steps : List Step) → (t ∈ (steps.foldl take m).tags ↔ t ∈ m.tags ∨ Reported t steps)
  | [] => by simp [Reported]
  | step :: rest => by
    rw [List.foldl_cons, mem_tags_foldl t (take m step) rest, mem_tags_take t m step, Reported, or_assoc]

theorem mem_tags_take (t : Tag) (m : Metadata) :
    (step : Step) → (t ∈ (take m step).tags ↔ t ∈ m.tags ∨ ReportedBy t step)
  | .record artifact => by
    rw [ReportedBy]
    exact TagSet.mem_union
  | .recordTags tags => by
    rw [ReportedBy]
    exact TagSet.mem_union
  | .pause => by simp [take, ReportedBy]
  | .nested steps passOn => by
    have hinner := mem_tags_foldl t .empty steps
    have hempty : ¬ t ∈ Metadata.empty.tags := by simp [Metadata.empty, TagSet.empty, TagSet.mem_def]
    rw [← collect_eq] at hinner
    rw [ReportedBy, take]
    cases passOn with
    | false => simp
    | true =>
      rw [if_pos rfl]
      have hunion : t ∈ (m.addPart (collect steps)).tags ↔ t ∈ m.tags ∨ t ∈ (collect steps).tags :=
        TagSet.mem_union
      simp [hunion, hinner, hempty]
end

theorem mem_tags_collect : t ∈ (collect steps).tags ↔ Reported t steps := by
  rw [collect_eq, mem_tags_foldl]
  simp [Metadata.empty, TagSet.empty, TagSet.mem_def]

end Collector
end TaggedCache

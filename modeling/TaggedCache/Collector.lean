import TaggedCache.Metadata

/-!
# Collecting cacheability

While an artifact is made, the parts it is made from report their cacheability. A collector sums up
what is reported to it. Collectors nest: a report goes to the innermost one only, and without any it
goes nowhere.
-/

namespace TaggedCache

/-- The open collectors with what each has collected, the innermost first. -/
abbrev Collector := List Metadata

namespace Collector

def record (artifact : Metadata) : Collector → Collector
  | [] => []
  | collected :: outer => collected.addPart artifact :: outer

def recordTags (tags : TagSet) : Collector → Collector
  | [] => []
  | collected :: outer => collected.addTags tags :: outer

def current? (c : Collector) : Option Metadata := c.head?

/-! ## Making an artifact -/

/-- What happens while an artifact is made. -/
inductive Step where
  | record (artifact : Metadata)
  | recordTags (tags : TagSet)
  /-- Something that reports nothing. -/
  | pause
  /-- A part is made under a collector of its own. Its cacheability is then reported outside when
  `passOn` is set. -/
  | nested (steps : List Step) (passOn : Bool)

/-- What is seen after a step. -/
inductive Event where
  | seen (current : Option Metadata)
  /-- What was seen inside a collector of its own, and what that collected in the end. -/
  | nested (events : List Event) (collected : Metadata)

mutual
/-- Runs steps one after another. After each it is seen what the innermost collector holds. -/
def run (c : Collector) : List Step → List Event × Collector
  | [] => ([], c)
  | step :: rest =>
    let (events, c) := runStep c step
    let (more, after) := run c rest
    (events ++ .seen c.current? :: more, after)

def runStep (c : Collector) : Step → List Event × Collector
  | .record artifact => ([], c.record artifact)
  | .recordTags tags => ([], c.recordTags tags)
  | .pause => ([], c)
  | .nested steps passOn =>
    let (events, inner) := run (.empty :: c) steps
    let collected := inner.current?.getD .empty
    let outer : Collector := inner.tail
    ([.nested events collected], if passOn then record collected outer else outer)
end

/-- The cacheability collected while some steps run under a fresh collector. -/
def collect (steps : List Step) : Metadata := ((run [.empty] steps).2.current?).getD .empty

end Collector
end TaggedCache

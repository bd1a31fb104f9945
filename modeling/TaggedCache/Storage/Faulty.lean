import TaggedCache.Storage

/-!
# Bins that fail on schedule

A bin whose next reads and writes fail as written down before, and that is like the bin inside it
otherwise. A read or write that fails does not reach that bin.
-/

namespace TaggedCache

/-- A bin whose reads and writes may fail. -/
structure Faulty (β : Type) where
  bin : β
  fault : BinFault
  /-- Whether each of the next reads fails. -/
  reads : List Bool
  /-- Whether each of the next writes fails. -/
  writes : List Bool

namespace Faulty

variable {β : Type}

/-- A bin without failures ahead. -/
def new (bin : β) (fault : BinFault) : Faulty β := ⟨bin, fault, [], []⟩

/-- Takes the next entry of a schedule; behind its end nothing fails. -/
def next (schedule : List Bool) : Bool × List Bool := (schedule.headD false, schedule.tail)

instance [Storage β] : Storage (Faulty β) where
  kind b := Storage.kind b.bin
  get now key b :=
    let (fails, reads) := next b.reads
    if fails then (.error b.fault, { b with reads })
    else
      let (result, bin) := Storage.get now key b.bin
      (result, { b with bin, reads })
  set key item b :=
    let (fails, writes) := next b.writes
    if fails then (.error b.fault, { b with writes })
    else
      let (result, bin) := Storage.set key item b.bin
      (result, { b with bin, writes })
  delete key b :=
    let (result, bin) := Storage.delete key b.bin
    (result, { b with bin })
  applyTags operation tags b :=
    let r := Storage.applyTags operation tags b.bin
    ⟨r.delay, r.outcome, { b with bin := r.after }, { b with bin := r.cut }⟩

end Faulty
end TaggedCache

import BulkJobs.Job.Snapshot
import BulkJobs.Proofs.Json.Record

/-!
# What decoding a job depends on

The members of jobs are of few kinds. A relation of trees that the decoders of these kinds keep
(`Json.Relation.IsKept`) is kept by the layouts of both families (`IngestJob.keeps_layout`,
`QueryJob.keeps_layout`), whatever the members are called and in whatever order they are declared.
-/

set_option autoImplicit false
set_option relaxedAutoImplicit false

namespace BulkJobs

namespace Json.Relation

/-- Whether the decoders of the members of jobs read from a related tree what they read from a tree:
then so do those of the jobs. -/
structure IsKept (R : Relation) : Prop where
  text : Decoder.text.Keeps R
  natural : ∀ bound expected, (Decoder.natural bound expected).Keeps R
  alternative : ∀ {α : Type} (names : List (String × α)), (Decoder.alternative names).Keeps R
  version : decodeApiVersion.Keeps R
  optional : ∀ {α : Type} {decode : Decoder α}, decode.Keeps R → decode.optional.Keeps R

def same : Relation := fun depth tree depth' tree' ↦ depth = depth' ∧ tree = tree'

theorem keeps_same {α : Type} (decode : Decoder α) : decode.Keeps same := by
  rintro depth tree _ _ a ⟨rfl, rfl⟩ hread
  exact hread

theorem isKept_same : same.IsKept where
  text := keeps_same _
  natural _ _ := keeps_same _
  alternative _ := keeps_same _
  version := keeps_same _
  optional _ := keeps_same _

end Json.Relation

open Json (Layout Relation)

theorem IngestJob.keeps_layout {R : Relation} (h : R.IsKept) : layout.Keeps R :=
  Layout.keeps_start IngestJob.mk
    |>.field h.text
    |>.field (h.alternative _)
    |>.field h.text
    |>.field (h.alternative _)
    |>.field (h.optional h.text)
    |>.field (h.optional (h.alternative _))
    |>.field (h.optional (h.alternative _))
    |>.field (h.optional (h.alternative _))
    |>.field (h.natural _ _)
    |>.field (h.natural _ _)
    |>.field (h.optional (h.natural _ _))
    |>.field (h.optional h.text)
    |>.field (h.optional h.text)
    |>.field (h.optional (h.natural _ _))
    |>.field (h.optional h.version)
    |>.field (h.optional h.text)
    |>.field (h.optional h.text)
    |>.field (h.optional h.text)

theorem QueryJob.keeps_layout {R : Relation} (h : R.IsKept) : layout.Keeps R :=
  Layout.keeps_start QueryJob.mk
    |>.field h.text
    |>.field (h.alternative _)
    |>.field (h.alternative _)
    |>.field (h.optional h.text)
    |>.field (h.optional h.text)
    |>.field (h.optional (h.alternative _))
    |>.field (h.optional (h.alternative _))
    |>.field (h.natural _ _)
    |>.field (h.optional h.text)
    |>.field (h.optional h.text)
    |>.field (h.optional h.version)
    |>.field (h.optional h.text)

end BulkJobs

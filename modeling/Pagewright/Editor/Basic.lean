import Pagewright.Document.Payload

/-!
# An editing session

An editor shows one node at several places when it is linked there, and a change to the node shows
at all of them: the places hold the node with one number. New nodes get numbers that no node of the
document has.
-/

namespace Pagewright

/-- The state of an editing session: the document, the number of the next new node, and how many
ids were made up so far. -/
structure Editor where
  document : Document
  nextSerial : Nat
  madeUp : Nat := 0

/-- Opens a document, whose nodes are numbered from zero. -/
def Editor.openDocument (document : Document) (madeUp : Nat) : Editor where
  document
  nextSerial := document.stored.length
  madeUp

end Pagewright

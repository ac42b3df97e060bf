import CoEdit.Decimal.Word

/-!
# The Document

Edits of the shared text. Positions and lengths count characters, and those beyond the text are cut
to it, so every edit applies to every text. An edit removes a stretch of characters at a position
and puts a text in its place; the stretch is found by byte offsets, as the text is held in UTF-8.

## Main definitions

* `Operation`: an insertion, deletion or replacement; `Operation.ofParts` builds one from loose
  parts.
* `byteOffset`, `splice`: where a character begins, and the exchange of a stretch; `spliceChars` is
  the exchange on a list of characters.
* `Operation.apply`, `replayOn`: an edit of a text, and a list of edits in order.
-/

namespace CoEdit

/-- An edit of the document. -/
inductive Operation
  | insert (position : Nat) (text : String)
  | delete (position length : Nat)
  | replace (position : Nat) (text : String) (length : Nat)
  deriving DecidableEq, Repr

namespace Operation

/-- The name of the kind of edit. -/
def kind : Operation → String
  | .insert .. => "insert"
  | .delete .. => "delete"
  | .replace .. => "replace"

/-- The character at which the edit begins. -/
def position : Operation → Nat
  | .insert p _ => p
  | .delete p _ => p
  | .replace p _ _ => p

/-- Why loose parts make no edit. -/
inductive Fault
  | insertNeedsText
  | deleteNeedsLength
  | replaceNeedsBoth
  | unknownKind (kind : String)
  deriving DecidableEq, Repr

/-- The wording of a fault. -/
def Fault.message : Fault → String
  | .insertNeedsText => "insert requires text"
  | .deleteNeedsLength => "delete requires length"
  | .replaceNeedsBoth => "replace requires text and length"
  | .unknownKind kind => "unknown operation kind '" ++ kind ++ "'"

/-- The edit made of a kind and parts; parts that the kind does not need are ignored. -/
def ofParts (kind : String) (position : Nat) (text : Option String) (length : Option Nat) :
    Except Fault Operation :=
  if kind = "insert" then
    match text with
    | some text => .ok (.insert position text)
    | none => .error .insertNeedsText
  else if kind = "delete" then
    match length with
    | some length => .ok (.delete position length)
    | none => .error .deleteNeedsLength
  else if kind = "replace" then
    match text, length with
    | some text, some length => .ok (.replace position text length)
    | _, _ => .error .replaceNeedsBoth
  else .error (.unknownKind kind)

end Operation

namespace Document

/-- The byte at which a character begins, or the end of the text if there are not that many. -/
def byteOffset (content : String) (count : Nat) : Nat :=
  (String.ofList (content.toList.take count)).utf8ByteSize

/-- The bytes from `start` up to `stop`, as text. -/
def bytes (content : String) (start stop : Nat) : String :=
  String.Pos.Raw.extract content ⟨start⟩ ⟨stop⟩

/-- Puts `text` in the place of `length` characters at `position`. -/
def splice (content : String) (position length : Nat) (text : String) : String :=
  let start := byteOffset content position
  let stop := byteOffset content (Decimal.saturatingAdd position length)
  bytes content 0 start ++ text ++ bytes content stop content.utf8ByteSize

/-- The same exchange on a list of characters, without bytes and without a largest number. -/
def spliceChars (content : List Char) (position length : Nat) (text : List Char) : List Char :=
  content.take position ++ text ++ content.drop (position + length)

/-- The length of a text in characters. -/
def charCount (content : String) : Nat :=
  content.length

end Document

/-- The text after an edit. -/
def Operation.apply (op : Operation) (content : String) : String :=
  match op with
  | .insert position text => Document.splice content position 0 text
  | .delete position length => Document.splice content position length ""
  | .replace position text length => Document.splice content position length text

/-- The text after a list of edits, the first one first. -/
def Document.replayOn (seed : String) (ops : List Operation) : String :=
  ops.foldl (fun content op => op.apply content) seed

example : (Operation.insert 99 "d").apply "abc" = "abcd" := by decide +kernel
example : (Operation.replace 2 "Z" Decimal.wordMax).apply "abc" = "abZ" := by decide +kernel
example : (Operation.delete 1 1).apply "héllo→wörld" = "hllo→wörld" := by decide +kernel

end CoEdit

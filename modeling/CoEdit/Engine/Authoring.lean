import CoEdit.Engine.Basic

/-!
# Working Together

What participants do in a session: edit the document, move their cursors, and ask a lecturer for
help. Edits and cursors are announced to the others, a call for help to everybody.

## Main definitions

* `Engine.change`, `Engine.cursor`, `Engine.assist`.
-/

namespace CoEdit.Engine

/-- Folds the older changes of a session, if the settings limit how many are kept one by one. -/
def limitHistory (config : Config) (s : Session) : Session :=
  match config.historyLimit with
  | none => s
  | some limit => (s.compact limit).2

/-- Applies an edit to the document of a session that its author is in. -/
def change (e : Engine) (sessionId authorId : String) (op : Operation) (now : Clock) :
    Except Error (Change × Engine) := do
  require sessionId .sessionId
  require authorId .authorId
  let s ← e.requireSession sessionId
  if e.whereabouts.get? authorId ≠ some sessionId then throw (.notInSession authorId)
  let (change, s) ← s.edit e.freshChangeId authorId op (now.acting sessionId)
  let s := limitHistory e.config s
  let e := (e.putSession s).announce sessionId (.codeChange change s.content) (some authorId)
    (now.announcing sessionId 0)
  let e := e.log sessionId (.changed change) change.timestamp
  pure (change, { e with changesMade := e.changesMade + 1 })

/-- Moves the cursor of a user in the session they are in. -/
def cursor (e : Engine) (userId : String) (position : Nat) (now : Clock) :
    Except Error (Unit × Engine) := do
  require userId .userId
  match e.whereabouts.get? userId with
  | none => throw (.notInSession userId)
  | some sessionId =>
    let s ← e.requireSession sessionId
    let (entry, s) ← s.moveCursor userId position (now.acting sessionId)
    pure ((), (e.putSession s).announce sessionId
      (.cursorUpdate userId entry.userName position entry.color) (some userId)
      (now.announcing sessionId 0))

/-- Asks a lecturer for help in a session. -/
def assist (e : Engine) (sessionId userId : String) (message : Option String) (now : Clock) :
    Except Error (Unit × Engine) := do
  require sessionId .sessionId
  require userId .userId
  let s ← e.requireSession sessionId
  let (entry, s) ← s.requestHelp userId (now.acting sessionId)
  let e := (e.putSession s).log sessionId (.helpRequested userId message)
    (now.recording sessionId 0)
  pure ((), e.announce sessionId (.helpRequested userId entry.userName message) none
    (now.announcing sessionId 0))

end CoEdit.Engine

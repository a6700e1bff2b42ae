import FieldRules.Validation.Validator

/-!
# Sessions

A session works on one validator at a time.  It can put the validator aside under a name, and go
on from one that was put aside.  What is put aside does not change any more.
-/

namespace FieldRules

/-- A validator, and those that were put aside, the last one first. -/
structure Session where
  current : Validator
  saved : List (Text × Validator)

namespace Session

inductive Step where
  | register (name : Text) (rule : Rule)
  | setFormatter (formatter : Formatter)
  | validate (input : Value)
  | validateWith (input : Value) (formatter : Formatter)
  | save (slot : Text)
  /-- Goes on from the validator that was put aside under a name, if there is one. -/
  | load (slot : Text)

def start (validator : Validator) : Session := ⟨validator, []⟩

def saved? (session : Session) (slot : Text) : Option Validator :=
  (session.saved.find? fun entry => entry.1 = slot).map Prod.snd

def step (session : Session) : Step → Session
  | .register name rule => { session with current := session.current.register name rule }
  | .setFormatter formatter => { session with current := session.current.setFormatter formatter }
  | .validate _ => session
  | .validateWith _ _ => session
  | .save slot => { session with saved := (slot, session.current) :: session.saved }
  | .load slot => { session with current := (session.saved? slot).getD session.current }

def run? (session : Session) : Step → Option Run
  | .validate input => some (session.current.validate input)
  | .validateWith input formatter => some (session.current.validateWith formatter input)
  | _ => none

def steps (session : Session) (list : List Step) : Session := list.foldl step session

end Session
end FieldRules

import Parley.Examples.Quiz

/-!
# Scripted handlers

Deciders and transforms that are given as data. A script says what to reply,
depending on the input and the state in a few simple ways; it is run by
`DecisionScript.reply` and `TransformScript.transform`. Scripts make it
possible to drive a flow through any route, well-formed or not, without
writing a handler for it.
-/

namespace Parley

open Examples

/-- A patch: fixed entries, then the input under a key, then a count. -/
structure PatchScript where
  fixed : Value
  store : Option String
  /-- The key of a count that goes up by one. -/
  increment : Option String

/-- What a scripted decider does. -/
inductive DecisionScript where
  | nothing
  | goto (node : Value) (patch : PatchScript)
  | finish (patch : PatchScript)
  /-- Replies with a value as it is. -/
  | reply (v : Value)
  | raise (cause : Fault)
  /-- Goes by a textual value of the state, or by the input if no key is
      given. -/
  | switch (key : Option String) (cases : List (String × DecisionScript))
      (otherwise : DecisionScript)
  /-- Goes by a count in the state being below a bound. -/
  | limit (key : String) (bound : Value) (below reached : DecisionScript)
  /-- Stores the input as the quiz's answer. -/
  | record (response : String)
  /-- Goes back to the quiz's question while it is not over. -/
  | retry (question : String)

instance : Inhabited DecisionScript := ⟨.nothing⟩

namespace PatchScript

/-- The entries that are merged. -/
def run (p : PatchScript) (input : Value) (state : Mapping) : Except Fault Mapping := do
  let fixed ← (Mapping.ofValue p.fixed).mapError .misuse
  let stored := match p.store with
    | some key => fixed.insert (.text key) input
    | none => fixed
  match p.increment with
  | none => pure stored
  | some key =>
    let count := (Mapping.find? state (.text key)).getD (.int 0)
    let next ← (count.add (.int 1)).mapError Fault.misuse
    pure (stored.insert (.text key) next)

end PatchScript

/-- A decision whose patch is given entry by entry, each under a name; the name
    of the next element cannot be given a second time. -/
def Decision.gotoNamed (node : Value) (patch : Mapping) : Except Fault Decision :=
  let isName (k : Value) : Bool := match k with
    | .text s => s != "next_node"
    | _ => false
  if patch.all fun e => isName e.1 then .ok (.goto node patch) else .error (.misuse .kind)

/-- A finishing decision whose patch is given entry by entry, each under a
    name. -/
def Decision.finishNamed (patch : Mapping) : Except Fault Decision :=
  let isName (k : Value) : Bool := match k with
    | .text _ => true
    | _ => false
  if patch.all fun e => isName e.1 then .ok (.finish patch) else .error (.misuse .kind)

namespace DecisionScript

mutual

/-- The reply of a script to an input in a state. -/
def run (input : Value) (state : Mapping) : DecisionScript → Except Fault Reply
  | .nothing => .ok .nothing
  | .goto node patch => do
    pure (.decision (← Decision.gotoNamed node (← patch.run input state)))
  | .finish patch => do pure (.decision (← Decision.finishNamed (← patch.run input state)))
  | .reply v => .ok (.value v)
  | .raise cause => .error cause
  | .switch key cases otherwise =>
    let subject := match key with
      | some k => Mapping.get state k
      | none => input
    match runCase input state subject cases with
    | some r => r
    | none => run input state otherwise
  | .limit key bound below reached => do
    let count := (Mapping.find? state (.text key)).getD (.int 0)
    if ← (count.isLess bound).mapError .misuse then run input state below
    else run input state reached
  | .record response => Quiz.recordAnswer response input state
  | .retry question => Quiz.retryOrFinish question state

/-- The reply of the case that a subject selects. -/
def runCase (input : Value) (state : Mapping) (subject : Value) :
    List (String × DecisionScript) → Option (Except Fault Reply)
  | [] => none
  | (name, s) :: cases =>
    if subject.sameKey (.text name) then some (run input state s)
    else runCase input state subject cases

end

/-- The decider that runs a script; a manager's input is null. -/
def decider (s : DecisionScript) (label : String) : Decider where
  label := some label
  reply input state := s.run (input.getD .null) state

end DecisionScript

/-- A condition on the state. -/
inductive Condition where
  | firstAttempt
  | correct
  | truthy (key : String)
  | has (key : String)

/-- The state satisfies the condition. -/
def Condition.holds : Condition → Mapping → Except Fault Bool
  | .firstAttempt, state => .ok (Quiz.isFirstAttempt state)
  | .correct, state => Quiz.isCorrect state
  | .truthy key, state => .ok (Mapping.get state key).isTruthy
  | .has key, state => .ok (state.contains (.text key))

/-- What a scripted transform does. -/
inductive TransformScript where
  | identity
  | template
  | nothing
  | feedback
  | onlyWhen (condition : Condition) (inner : TransformScript)
  | setText (words : String)
  | replace (payload : Option Payload)
  | raise (cause : Fault)

/-- The transform that a script describes. -/
def TransformScript.transform : TransformScript → Transform
  | .identity => .identity
  | .template => .template
  | .nothing => fun _ _ => .ok none
  | .feedback => Quiz.showFeedback
  | .onlyWhen condition inner => .onlyWhen condition.holds inner.transform
  | .setText words => fun _ payload =>
    match payload with
    | some p => .ok (some (p.withText words))
    | none => .error (.misuse .part)
  | .replace payload => fun _ _ => .ok payload
  | .raise cause => fun _ _ => .error cause

end Parley

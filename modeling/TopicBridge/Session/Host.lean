import TopicBridge.Session.Step

/-!
# The scripting host of a session

A host that records the calls it is asked to make.  A call succeeds if the
callback is an entry point that is not marked as failing.  A callback may have
reactions: each call that succeeds uses up the first of them, a list of steps
that the callback takes before it returns.
-/

namespace TopicBridge

/-- A call that was made. -/
structure Call where
  callback : Callback
  arguments : List Value

/-- The state of a host, with what it recorded oldest first. -/
structure Host (κ ρ : Type) where
  entryPoints : List Callback := []
  failing : List Callback := []
  calls : Array Call := #[]
  /-- The command and the message of every failure that scripts were told. -/
  failures : List (String × String) := []
  /-- The reactions of each callback, the next one first. -/
  reactions : Dict Callback (List (List (Step κ))) := []
  /-- The answers to the steps that callbacks took, in the order of
  completion. -/
  nested : List (Answer ρ) := []

namespace Host

variable {κ ρ : Type}

/-- The callback is an entry point of its script. -/
def hasEntryPoint (host : Host κ ρ) (callback : Callback) : Bool :=
  host.entryPoints.contains callback

/-- Make a call. -/
def call (host : Host κ ρ) (callback : Callback) (arguments : List Value) :
    Except String Unit × Host κ ρ :=
  if !host.hasEntryPoint callback then (.error ("no entry point " ++ toString callback), host)
  else if host.failing.contains callback then
    (.error (toString callback ++ " raised an error"), host)
  else (.ok (), { host with calls := host.calls.push ⟨callback, arguments⟩ })

/-- Tell a script that its command failed. -/
def tellFailure (host : Host κ ρ) (command message : String) : Host κ ρ :=
  { host with failures := host.failures ++ [(command, message)] }

/-- The next reaction of a callback, which is used up. -/
def nextReaction? (host : Host κ ρ) (callback : Callback) : Option (List (Step κ) × Host κ ρ) :=
  match Dict.get? host.reactions callback with
  | some (steps :: later) =>
      some (steps, { host with reactions := Dict.insert host.reactions callback later })
  | _ => none

/-- The number of reactions that are left. -/
def reactionsLeft (host : Host κ ρ) : Nat :=
  host.reactions.foldl (fun count entry => count + entry.2.length) 0

/-- The first argument of every call to a callback of a name. -/
def payloadsFor (host : Host κ ρ) (name : String) : List Value :=
  host.calls.toList.filterMap fun call =>
    if call.callback.name = name then call.arguments.head? else none

/-- Record the answer to a step that a callback took. -/
def answerNested (host : Host κ ρ) (answer : Answer ρ) : Host κ ρ :=
  { host with nested := host.nested ++ [answer] }

end Host

end TopicBridge

import Interpolation.Render

/-!
Work on one store over time: bindings come in, and in between the store is read and rendered.
-/
namespace Interpolation

inductive Command
  /-- Add a binding from parts that may be absent. -/
  | add (pattern value : Option Text) (caseSensitive : Option Bool)
  | insert (pattern value : Text) (caseSensitivity : CaseSensitivity)
  | size
  | isEmpty
  | get (index : Nat)
  | list
  /-- Copy the bindings. -/
  | snapshot
  | evaluate (template : Option Text) (mode : Option String)
  | render (template : Text) (mode : Mode)

inductive Reply
  | done
  | refused (e : BindingError)
  | count (n : Nat)
  | truth (b : Bool)
  | binding (b : Option Binding)
  | bindings (bs : List Binding)
  | output (text : Option Text)
  | resolution (r : Resolution)
  /-- The result of rendering is undefined. -/
  | undefined
  deriving DecidableEq, Repr

namespace Store

/-- Takes over a store to which a binding was added, or reports why it was refused. -/
def accept (store : Store) : Except BindingError Store → Reply × Store
  | .ok store => (.done, store)
  | .error e => (.refused e, store)

/-- The answer to a command and the store after it. -/
def perform (store : Store) : Command → Reply × Store
  | .add pattern value flag => store.accept (store.add pattern value flag)
  | .insert pattern value c => store.accept (store.insert pattern value c)
  | .size => (.count store.size, store)
  | .isEmpty => (.truth (store.bindings = []), store)
  | .get index => (.binding (store.get? index), store)
  | .list | .snapshot => (.bindings store.bindings, store)
  | .evaluate template mode =>
    ((evaluate? template (some store) mode).elim .undefined .output, store)
  | .render template mode => ((store.render? template mode).elim .undefined .resolution, store)

def performAll (store : Store) : List Command → List Reply
  | [] => []
  | command :: commands =>
    let (reply, next) := store.perform command
    reply :: performAll next commands

def after (store : Store) (commands : List Command) : Store :=
  commands.foldl (fun store command => (store.perform command).2) store

end Store

end Interpolation

import ChatOptions.Error
import ChatOptions.Notice
import ChatOptions.Options.Shared
import ChatOptions.Registry

/-! The callbacks that are active for a call. -/

namespace ChatOptions

/-- The callbacks gathered for a call, with the names that have been seen on the way. -/
structure Gathering where
  seen : List String := []
  active : List Callback := []

namespace Gathering

/-- Takes a callback that the options bring along, unless its name has been seen. -/
def takeInline (gathering : Gathering) (callback : Callback) : Gathering :=
  if gathering.seen.contains callback.name then gathering
  else ⟨callback.name :: gathering.seen, gathering.active ++ [callback]⟩

/-- Takes the callback that is found for an enabled name, unless the name has been seen. -/
def takeNamed (lookup : Lookup) (gathering : Gathering) (name : String) :
    Except OptionsError Gathering :=
  if gathering.seen.contains name then .ok gathering
  else match lookup name with
    | none => .error (.unknownFunction name)
    -- The name that was asked for has been seen, whatever the callback calls itself.
    | some callback => .ok ⟨name :: gathering.seen, gathering.active ++ [callback]⟩

end Gathering

namespace SharedOptions

/-- The callbacks active for a call: those of the options, one of each name, and then those found for the enabled names that they do not cover. -/
def activeCallbacks (options : SharedOptions) (lookup : Lookup) :
    Except OptionsError (List Callback) := do
  let inlined := options.callbacks.foldl Gathering.takeInline {}
  let gathered ← options.functions.toList.foldlM (Gathering.takeNamed lookup) inlined
  return gathered.active

/-- Finds the active callbacks, and reports their number. -/
def resolve (options : SharedOptions) (lookup : Lookup) :
    Except OptionsError (List Callback × List Notice) := do
  let active ← options.activeCallbacks lookup
  return (active, [.callbacksResolved options.callbacks.length options.functions.size active.length])

end SharedOptions

namespace Options

/-- Finds the callbacks active for a call with these options. -/
def resolve (options : Options) (lookup : Lookup) :
    Except OptionsError (List Callback × List Notice) :=
  options.shared.resolve lookup

end Options

end ChatOptions

import Externalize.CommandLine.Switch
import Externalize.Settings.Basic

/-!
# `Externalize.CommandLine.Arguments`: what the command line asks for

The arguments are taken from left to right. A switch that takes a value takes what is attached to it,
or else the plain word that follows. Letters attached to a switch without a value are switches
themselves. What no switch takes is left over, and left-over arguments are an error, as is a command
line that names neither a file nor a folder.

Two dashes attached to a switch are no value. The switch then counts as given, and that it has no value
is found out only when the value is needed.
-/

set_option autoImplicit false

namespace Externalize

/-- A switch with its value, if it has one. -/
structure Given where
  switch : Switch
  value : Option Text := none
  deriving Repr, DecidableEq

/-- The `switch` with the `text` that is attached to it as its value. -/
def Given.ofAttached (switch : Switch) (text : Text) : Given :=
  { switch, value := if text = ['-', '-'] then none else some text }

/-- Switches that were spelled in one argument. -/
structure Cluster where
  given : List Given
  /-- A switch at the end whose value is the next argument. -/
  awaiting : Option Switch := none
  deriving Repr, DecidableEq

namespace Cluster

/-- What is said of a `switch` that goes wrong. -/
def complaint (switch : Switch) (issue : String) : String :=
  s!"argument {switch.title}: {issue}"

/-- What is said of a `text` that a switch has no use for. -/
def ignored (switch : Switch) (text : Text) : String :=
  complaint switch s!"ignored explicit argument {String.ofList text.quote}"

/-- The cluster with `switch` before its others. -/
def add (cluster : Cluster) (switch : Switch) : Cluster :=
  { cluster with given := { switch } :: cluster.given }

/-- The switches that begin with `switch`, with the letters `text` attached. -/
def ofLetters (switch : Switch) : Text → Except String Cluster
  | [] =>
    if switch.takesValue then .ok { given := [], awaiting := some switch }
    else .ok { given := [{ switch }] }
  | letter :: rest =>
    if switch.takesValue then .ok { given := [.ofAttached switch (letter :: rest)] }
    else
      match Switch.ofSpelling? ['-', letter] with
      | none => .error (ignored switch (letter :: rest))
      | some next => (ofLetters next rest).map (·.add switch)

/-- The switches of an argument that begins with `switch`, spelled `spelling`. -/
def ofSwitch (switch : Switch) (spelling : Text) : Option Text → Except String Cluster
  | none => ofLetters switch []
  | some attached =>
    if switch.takesValue then .ok { given := [.ofAttached switch attached] }
    else if spelling.length ≠ 2 || attached.isEmpty then .error (ignored switch attached)
    else ofLetters switch attached

end Cluster

/-- The switches of a command line, and what is left over. -/
structure Switches where
  given : List Given := []
  leftover : List Text := []
  deriving Repr, DecidableEq

namespace Switches

/-- The switches with those that are `given` behind them. -/
def add (switches : Switches) (given : List Given) : Switches :=
  { switches with given := switches.given ++ given }

/-- Whether `help` is among the switches. -/
def asksHelp (switches : Switches) : Bool :=
  switches.given.any (·.switch == .help)

/-- Collects the switches of the arguments until the help is asked for. `awaiting` is a switch whose
value is next, and it comes before the help that is asked for in the same argument. -/
def collect : Switches → Option Switch → List (Text × Argument) → Except String Switches
  | switches, none, [] => .ok switches
  | _, some switch, [] => .error (Cluster.complaint switch "expected one argument")
  | switches, some switch, (text, argument) :: rest =>
    if argument = .word then
      let switches := switches.add [{ switch, value := some text }]
      if switches.asksHelp then .ok switches else collect switches none rest
    else .error (Cluster.complaint switch "expected one argument")
  | switches, none, (text, argument) :: rest =>
    match argument with
    | .word | .dashes | .unknown =>
      collect { switches with leftover := switches.leftover ++ [text] } none rest
    | .known switch spelling attached =>
      match Cluster.ofSwitch switch spelling attached with
      | .error complaint => .error complaint
      | .ok cluster =>
        let switches := switches.add cluster.given
        if cluster.awaiting.isNone && switches.asksHelp then .ok switches
        else collect switches cluster.awaiting rest

end Switches

/-- What the command line asks for. -/
structure Arguments where
  settings : Settings := {}
  /-- Every question is answered with yes. -/
  yes : Bool := false
  verbose : Bool := false
  /-- The switches that were given without the value that they take. -/
  valueless : List Switch := []
  deriving Repr, DecidableEq

namespace Arguments

/-- The arguments with `change` of their options. -/
def modifyOptions (arguments : Arguments) (change : Options → Options) : Arguments :=
  let settings := arguments.settings
  { arguments with settings := { settings with options := change settings.options } }

/-- Takes a switch in. What it sets is empty if it has no `value`. -/
def set (arguments : Arguments) (given : Given) : Arguments :=
  let settings := arguments.settings
  let text := given.value.getD []
  let path := Path.ofText text
  match given.switch with
  | .help => arguments
  | .file => { arguments with settings := { settings with file := some path } }
  | .folder => { arguments with settings := { settings with folder := some path } }
  | .stem => arguments.modifyOptions fun options => { options with stem := some (.ofText text) }
  | .ending => arguments.modifyOptions fun options => { options with ending := some (.ofText text) }
  | .target => arguments.modifyOptions fun options => { options with target := some path }
  | .recursive => { arguments with settings := { settings with recursive := true } }
  | .backup => arguments.modifyOptions fun options => { options with backup := true }
  | .accessor => arguments.modifyOptions fun options => { options with accessor := true }
  | .yes => { arguments with yes := true }
  | .verbose => { arguments with verbose := true }

/-- `set`, with the switch among the `valueless` ones if its value is missing. -/
def take (arguments : Arguments) (given : Given) : Arguments :=
  let others := arguments.valueless.filter (· != given.switch)
  let missing := given.switch.takesValue && given.value.isNone
  { arguments.set given with valueless := if missing then given.switch :: others else others }

end Arguments

/-- What a command line comes to before anything is done. -/
inductive Invocation
  /-- The help is asked for. -/
  | help
  /-- The command line makes no sense. -/
  | misuse (complaint : String)
  | run (arguments : Arguments)
  deriving Repr, DecidableEq

/-- Reads a command line: `Argument.readAll`, `Switches.collect`, and then `take` for each switch. -/
def Invocation.ofArguments (texts : List Text) : Invocation :=
  match (Argument.readAll texts).bind (Switches.collect {} none) with
  | .error complaint => .misuse complaint
  | .ok switches =>
    if switches.asksHelp then .help
    else if !switches.leftover.isEmpty then
      let listed := " ".intercalate (switches.leftover.map String.ofList)
      .misuse s!"unrecognized arguments: {listed}"
    else
      let arguments := switches.given.foldl Arguments.take {}
      if arguments.settings.file.isNone && arguments.settings.folder.isNone then
        .misuse "one of -i FILE or -d PATH is required"
      else .run arguments

end Externalize

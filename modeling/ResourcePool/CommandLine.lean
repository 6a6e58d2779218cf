import ResourcePool.Request.Load

/-!
The command line. Arguments are taken from left to right and the first that is wrong, or that asks
for the version or for help, settles what happens. What a run writes is computed from the content of
the request file alone.
-/

namespace ResourcePool.CommandLine

/-- What the arguments so far ask for. -/
structure Options where
  request : Option String
  output : Option String
  capacity : Bool
  pretty : Bool
deriving DecidableEq

/-- What the arguments come to. -/
inductive Usage where
  | run (request : String) (output : Option String) (capacity pretty : Bool)
  | version
  | help
  | wrong
deriving DecidableEq

/-! ### Arguments -/

/-- The options, each of which may be given once. -/
inductive Flag where
  | request
  | output
  | capacity
  | pretty
  | version
  | help
deriving DecidableEq

def Flag.ofName? (name : List Char) : Option Flag :=
  match String.ofList name with
  | "request" => some .request
  | "output" => some .output
  | "capacity" => some .capacity
  | "pretty" => some .pretty
  | "version" => some .version
  | "help" => some .help
  | _ => none

def Flag.ofLetter? : Char → Option Flag
  | 'r' => some .request
  | 'o' => some .output
  | 'V' => some .version
  | 'h' => some .help
  | _ => none

def Flag.takesValue : Flag → Bool
  | .request | .output => true
  | _ => false

/-- Sets the option of a value; neither a second value nor an empty one is taken. -/
def Options.setValue? (o : Options) (flag : Flag) (value : String) : Option Options :=
  if value = "" then none
  else
    match flag, o.request, o.output with
    | .request, none, _ => some { o with request := some value }
    | .output, _, none => some { o with output := some value }
    | _, _, _ => none

/-- Sets an option without a value, once. -/
def Options.set? (o : Options) : Flag → Option Options
  | .capacity => if o.capacity then none else some { o with capacity := true }
  | .pretty => if o.pretty then none else some { o with pretty := true }
  | _ => none

/-- Whether an argument can be the value of the option before it. -/
def isValue (arg : List Char) : Bool := arg.head? != some '-' || arg.length == 1

/-- One argument, taken apart. -/
inductive Argument where
  | flag (f : Flag)
  | valued (f : Flag) (value : String)
  | endOfOptions
  | wrong

def Argument.ofChars : List Char → Argument
  | ['-', '-'] => .endOfOptions
  | '-' :: '-' :: body =>
    let name := body.takeWhile (· ≠ '=')
    match Flag.ofName? name, body.drop name.length with
    | some f, [] => .flag f
    | some f, _ :: value => if f.takesValue then .valued f (String.ofList value) else .wrong
    | none, _ => .wrong
  | '-' :: letter :: rest =>
    match Flag.ofLetter? letter with
    | some f =>
      if !f.takesValue || rest = [] then .flag f
      else .valued f (String.ofList (if rest.head? = some '=' then rest.drop 1 else rest))
    | none => .wrong
  | _ => .wrong

/-- Settles what was asked for once all arguments are taken. -/
def Options.finish (o : Options) : Usage :=
  match o.request with
  | some request => .run request o.output o.capacity o.pretty
  | none => .wrong

/-- Takes the arguments one after the other. -/
def Options.take (o : Options) : List String → Usage
  | [] => o.finish
  | arg :: rest =>
    match Argument.ofChars arg.toList with
    | .flag .version => .version
    | .flag .help => .help
    | .flag f =>
      if f.takesValue then
        match rest with
        | value :: rest =>
          if isValue value.toList then
            match o.setValue? f value with
            | some o => o.take rest
            | none => .wrong
          else .wrong
        | [] => .wrong
      else
        match o.set? f with
        | some o => o.take rest
        | none => .wrong
    | .valued f value =>
      match o.setValue? f value with
      | some o => o.take rest
      | none => .wrong
    | .endOfOptions => if rest = [] then o.finish else .wrong
    | .wrong => .wrong

/-- What a list of arguments asks for. -/
def Usage.ofArguments (args : List String) : Usage := Options.take ⟨none, none, false, false⟩ args

/-! ### Texts -/

def versionText : String := "netalloc 0.1.0"

def helpText : String :=
  "Allocation strategies for network resource pools: IPv4/IPv6 addresses and prefixes, VLANs, and formatted counters

Usage: netalloc [OPTIONS] --request <REQUEST>

Options:
  -r, --request <REQUEST>  Path to the allocation request (JSON, or YAML with a .yaml/.yml extension)
      --capacity           Report free and utilized capacity instead of allocating
      --pretty             Pretty-print the JSON result
  -o, --output <OUTPUT>    Write the result to this file instead of stdout
  -h, --help               Print help
  -V, --version            Print version"

def usageText : String := "Usage: netalloc [OPTIONS] --request <REQUEST>"

/-! ### Running -/

/-- What a run comes to: the text of its result, or the messages of its failure from the outermost
one inward. -/
structure Run where
  records : List Record
  result : Except (List String) String

/-- The result of a pool operation as a document, or its failure in context. -/
def Run.ofLogged (operation : Logged α) (write : α → String) (setUp failed : String) (opened : Bool) :
    Run :=
  ⟨operation.records,
    match operation.result with
    | .ok a => .ok (write a)
    | .error e => .error [if opened then failed else setUp, e.message]⟩

/-- Loads the request and does what is asked for. -/
def run (request : String) (capacity pretty : Bool) (content : Option String) : Run :=
  let loading := Request.load request content
  match loading.result with
  | .error failure => ⟨loading.records, .error [failure.message]⟩
  | .ok (r, kind) =>
    let layout : Layout := if pretty then .pretty else .compact
    let setUp := s!"Failed to set up {kind.name} strategy"
    let opened := (Pool.ofSnapshot kind r.snapshot).toOption.isSome
    let rest : Run :=
      if capacity then
        .ofLogged r.capacity (Capacity.document layout) setUp
          s!"Failed to compute {kind.name} capacity" opened
      else
        .ofLogged (r.allocate none) (Bag.document layout) setUp
          s!"Failed to allocate from {kind.name} pool" opened
    ⟨loading.records ++ rest.records, rest.result⟩

end ResourcePool.CommandLine

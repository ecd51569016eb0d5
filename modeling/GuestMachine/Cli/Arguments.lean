/-! # The command line

One image to run, and options around it. Arguments are read from left to right,
and the first thing wrong ends the reading; so does a request for help, if it
comes first. After two dashes everything is taken for an image.
-/

namespace GuestMachine.Cli

structure Arguments where
  image : String
  singleCore : Bool := false
  cores : Option UInt64 := none
  config : Option String := none
  metadata : Option String := none
  traceCalls : Bool := false
  deriving Repr, DecidableEq

inductive Request where
  | help
  | version
  | run (arguments : Arguments)
  deriving Repr, DecidableEq

inductive UsageError where
  | unexpected (argument : String)
  | repeated (option : String)
  | missingValue (option : String)
  | unneededValue (option : String)
  | invalidValue (option value : String)
  | missingImage
  deriving Repr, DecidableEq

def UsageError.message : UsageError → String
  | .unexpected argument => "unexpected argument '" ++ argument ++ "' found"
  | .repeated option => "the argument '" ++ option ++ "' cannot be used multiple times"
  | .missingValue option => "a value is required for '" ++ option ++ "' but none was supplied"
  | .unneededValue option => "unexpected value for '" ++ option ++ "' found; no more were expected"
  | .invalidValue option value => "invalid value '" ++ value ++ "' for '" ++ option ++ "'"
  | .missingImage => "the following required arguments were not provided: <IMAGE>"

/-- What has been read so far. -/
structure Draft where
  image : Option String := none
  singleCore : Bool := false
  cores : Option UInt64 := none
  config : Option String := none
  metadata : Option String := none
  traceCalls : Bool := false

/-- A number of 64 bits in base ten. A plus may come first. -/
def count? (text : String) : Option UInt64 :=
  let digits := match text.toList with
    | '+' :: digits => digits
    | digits => digits
  if digits.isEmpty || !digits.all Char.isDigit then none
  else
    let n := digits.foldl (fun n c => 10 * n + (c.toNat - '0'.toNat)) 0
    if n < 2 ^ 64 then some (UInt64.ofNat n) else none

namespace Draft

/-- Fill a place that is still empty. -/
def once (option : String) (place : Option α) (value : α) : Except UsageError (Option α) :=
  if place.isSome then .error (.repeated option) else .ok (some value)

def path (option value : String) : Except UsageError String :=
  if value = "" then .error (.invalidValue option value) else .ok value

def addImage (draft : Draft) (argument : String) : Except UsageError Draft := do
  if draft.image.isSome then throw (.unexpected argument)
  return { draft with image := some (← path "<IMAGE>" argument) }

/-- Options with a value. -/
def addOption? (draft : Draft) (option : String) :
    Option (String → Except UsageError Draft) :=
  match option with
  | "--cores" => some fun value =>
      match count? value with
      | some n => do return { draft with cores := ← once option draft.cores n }
      | none => .error (.invalidValue option value)
  | "--config" => some fun value => do
      return { draft with config := ← once option draft.config (← path option value) }
  | "--metadata" => some fun value => do
      return { draft with metadata := ← once option draft.metadata (← path option value) }
  | _ => none

/-- Options without a value. -/
def addFlag? (draft : Draft) (option : String) : Option (Except UsageError Draft) :=
  match option with
  | "--single-core" => some <|
      if draft.singleCore then .error (.repeated option)
      else .ok { draft with singleCore := true }
  | "--trace-svc" => some <|
      if draft.traceCalls then .error (.repeated option)
      else .ok { draft with traceCalls := true }
  | _ => none

def finish (draft : Draft) : Except UsageError Request :=
  match draft.image with
  | none => .error .missingImage
  | some image =>
      .ok (.run {
        image
        singleCore := draft.singleCore
        cores := draft.cores
        config := draft.config
        metadata := draft.metadata
        traceCalls := draft.traceCalls })

/-- An option and the value attached to it by an equals sign. -/
def split (argument : List Char) : String × Option String :=
  (String.ofList (argument.takeWhile (· != '=')),
    match argument.dropWhile (· != '=') with
    | _ :: value => some (String.ofList value)
    | [] => none)

/-- Whether an argument is an option rather than a value. -/
def isOption (argument : String) : Bool :=
  match argument.toList with
  | '-' :: _ :: _ => true
  | _ => false

def requests : List (String × Request) :=
  [("--help", .help), ("--version", .version)]

/-- Letters that stand for a request. The first letter decides. -/
def letterRequest? : Char → Option Request
  | 'h' => some .help
  | 'V' => some .version
  | _ => none

def read (draft : Draft) : List String → Except UsageError Request
  | [] => draft.finish
  | "--" :: images => do (← images.foldlM addImage draft).finish
  | argument :: rest =>
      match argument.toList with
      | '-' :: '-' :: _ =>
          let (option, attached) := split argument.toList
          match requests.lookup option, draft.addFlag? option, draft.addOption? option with
          | some request, _, _ =>
              if attached.isSome then .error (.unneededValue option) else .ok request
          | none, some flagged, _ =>
              if attached.isSome then .error (.unneededValue option)
              else do read (← flagged) rest
          | none, none, some add =>
              match attached, rest with
              | some value, rest => do read (← add value) rest
              | none, value :: rest =>
                  if isOption value then .error (.missingValue option)
                  else do read (← add value) rest
              | none, [] => .error (.missingValue option)
          | none, none, none => .error (.unexpected argument)
      | '-' :: letter :: _ =>
          match letterRequest? letter with
          | some request => .ok request
          | none => .error (.unexpected argument)
      | _ => do read (← draft.addImage argument) rest

end Draft

def parse (arguments : List String) : Except UsageError Request :=
  Draft.read {} arguments

end GuestMachine.Cli

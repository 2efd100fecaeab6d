import Prisma.ClientEngine.Json

/-! The values the client engine throws and catches, and the three transforms of `ClientEngine`
that classify them: `#transformRequestError`, `#transformCompileError` and `#transformInitError`.
A transform can itself throw a TypeError, so each returns an `Except`. -/

namespace Prisma.ClientEngine.Errors
open Json

/-- The fields of `EngineConfig` that the error paths read. -/
structure EngineConfig where
  clientVersion : String
  activeProvider : String
  deriving DecidableEq

/-- What `getErrorMessageWithLink` hands to the generic report builder. -/
structure ErrorLinkArgs where
  binaryTarget : Option String
  title : String
  version : String
  engineVersion : String
  database : String
  query : Option String
  deriving DecidableEq

/-- The message of a `PrismaClientRustPanicError`: the panic text itself, or the report that
`getErrorMessageWithLink` builds around it. -/
inductive PanicMessage where
  | text (value : String)
  | withLink (args : ErrorLinkArgs)
  deriving DecidableEq

/-- A thrown value: an instance of one of the error classes the engine knows, another `Error`, or
any other value. -/
inductive Thrown where
  | initializationError (message : String) (clientVersion : String) (errorCode : JsValue)
  | rustPanicError (message : PanicMessage) (clientVersion : String)
  | knownRequestError (message : String) (code : String) (meta : JsValue) (clientVersion : String)
  | unknownRequestError (message : String) (clientVersion : String)
  | userFacingError (message : String) (code : String) (meta : JsValue)
  | error (name : String) (message : String) (props : JsEntries)
  | value (v : JsValue)
  deriving DecidableEq

/-- The `getErrorMessageWithLink` of `ClientEngine.ts`, reading the engine's config and its
`lastStartedQuery`. -/
def getErrorMessageWithLink (config : EngineConfig) (lastStartedQuery : Option String)
    (title : String) : PanicMessage :=
  .withLink
    { binaryTarget := none
      title := title
      version := config.clientVersion
      engineVersion := "unknown"
      database := config.activeProvider
      query := lastStartedQuery }

/-- `Error.prototype.toString`. -/
def errorToString (name message : String) : String :=
  if name = "" then message else if message = "" then name else name ++ ": " ++ message

/-- The TypeError of a failed property read or call. -/
def typeError (message : String) : Thrown := .error "TypeError" message .nil

/-- The TypeError of reading `key` from a thrown `null` or `undefined`. -/
def readError (err : Thrown) (key : String) : Thrown :=
  typeError ("Cannot read properties of " ++ (if err = .value .undefined then "undefined" else "null") ++
    " (reading \x27" ++ key ++ "\x27)")

section
variable (genericGetErrorMessageWithLink : ErrorLinkArgs → String)

def PanicMessage.render : PanicMessage → String
  | .text value => value
  | .withLink args => genericGetErrorMessageWithLink args

/-- A named property read; `none` is the TypeError of reading from `null` or `undefined`. -/
def Thrown.get? : Thrown → String → Option JsValue
  | .initializationError message _ errorCode, key =>
    some (if key = "message" then .string message else if key = "errorCode" then errorCode
      else .undefined)
  | .rustPanicError message _, key =>
    some (if key = "message" then .string (message.render genericGetErrorMessageWithLink)
      else .undefined)
  | .knownRequestError message code meta _, key =>
    some (if key = "message" then .string message else if key = "code" then .string code
      else if key = "meta" then meta else .undefined)
  | .unknownRequestError message _, key =>
    some (if key = "message" then .string message else .undefined)
  | .userFacingError message code meta, key =>
    some (if key = "message" then .string message else if key = "code" then .string code
      else if key = "meta" then meta else .undefined)
  | .error _ message props, key =>
    some (if key = "message" then .string message else (props.find? key).getD .undefined)
  | .value v, key => v.get? key

/-- `String(err)`, as `JSON.parse` converts its argument. -/
def Thrown.toJsString : Thrown → String
  | .initializationError message _ _ => errorToString "PrismaClientInitializationError" message
  | .rustPanicError message _ =>
    errorToString "PrismaClientRustPanicError" (message.render genericGetErrorMessageWithLink)
  | .knownRequestError message _ _ _ => errorToString "PrismaClientKnownRequestError" message
  | .unknownRequestError message _ => errorToString "PrismaClientUnknownRequestError" message
  | .userFacingError message _ _ => errorToString "UserFacingError" message
  | .error name message _ => errorToString name message
  | .value v => v.toJsString

/-- `err.code === 'GenericFailure' && err.message?.startsWith('PANIC:')`, giving the message
when it holds. -/
def panicTitle? (err : Thrown) : Except Thrown (Option String) :=
  match err.get? genericGetErrorMessageWithLink "code" with
  | none => .error (readError err "code")
  | some code =>
    if code = .string "GenericFailure" then
      match err.get? genericGetErrorMessageWithLink "message" with
      | some (.string message) =>
        .ok (if "PANIC:".toList.isPrefixOf message.toList then some message else none)
      | some .undefined => .ok none
      | some .null => .ok none
      | some _ => .error (typeError "err.message?.startsWith is not a function")
      | none => .error (readError err "message")
    else .ok none

/-- The last branch of `#transformRequestError`: a thrown JSON text is an engine error with a
backtrace. Reading from a parsed `null` throws inside the `try` and returns `err`. -/
def parseRustRequestError (config : EngineConfig) (err : Thrown) : Thrown :=
  match jsonParse (err.toJsString genericGetErrorMessageWithLink) with
  | some error =>
    match error.get? "message", error.get? "backtrace" with
    | some message, some backtrace =>
      .unknownRequestError (message.toJsString ++ "\n" ++ backtrace.toJsString) config.clientVersion
    | _, _ => err
  | none => err

def transformRequestError (config : EngineConfig) (lastStartedQuery : Option String)
    (err : Thrown) : Except Thrown Thrown :=
  match err with
  | .initializationError .. => .ok err
  | _ =>
    match panicTitle? genericGetErrorMessageWithLink err with
    | .error e => .error e
    | .ok (some title) =>
      .ok (.rustPanicError (getErrorMessageWithLink config lastStartedQuery title) config.clientVersion)
    | .ok none =>
      match err with
      | .userFacingError message code meta => .ok (.knownRequestError message code meta config.clientVersion)
      | _ => .ok (parseRustRequestError genericGetErrorMessageWithLink config err)

def transformCompileError (config : EngineConfig) (error : Thrown) : Except Thrown Thrown :=
  match error with
  | .rustPanicError .. => .ok error
  | _ =>
    match error.get? genericGetErrorMessageWithLink "message" with
    | none => .error (readError error "message")
    | some (.string message) =>
      match error.get? genericGetErrorMessageWithLink "code" with
      | some (.string code) =>
        .ok (.knownRequestError message code
          ((error.get? genericGetErrorMessageWithLink "meta").getD .undefined) config.clientVersion)
      | _ => .ok error
    | some _ => .ok error

/-- The `message` the `Error` constructor stores for an argument: nothing for `undefined`. -/
def errorMessage (message : JsValue) : String :=
  if message = .undefined then "" else message.toJsString

/-- Everything between `JSON.parse(err.message)` and the `return` sits in the `try`, so every
failure returns `err`. -/
def transformInitError (config : EngineConfig) (err : Thrown) : Thrown :=
  match err with
  | .rustPanicError .. => err
  | _ =>
    match (err.get? genericGetErrorMessageWithLink "message").bind (jsonParse ·.toJsString) with
    | some error =>
      match error.get? "message", error.get? "error_code" with
      | some message, some code => .initializationError (errorMessage message) config.clientVersion code
      | _, _ => err
    | none => err

/-! ### Classifying twice changes nothing

Each kind of output of `#transformRequestError` falls into the pass-through branch on a second
pass: a panic test that held on the input has already been used, and the text of every error class
of the client begins with `Prisma`, which no JSON text does. -/

theorem jsonParse_errorToString (name message : String) (rest : List Char)
    (prisma : name.data = 'P' :: rest) : jsonParse (errorToString name message) = none := by
  obtain ⟨data⟩ := name
  subst prisma
  have named : String.mk ('P' :: rest) ≠ "" := fun same => by simpa using congrArg String.data same
  rw [errorToString, if_neg named]
  split_ifs
  · exact jsonParse_prisma rest
  · exact jsonParse_prisma (rest ++ (": " ++ message).data)

/-- The error classes of the client that `JSON.parse(err)` always rejects. -/
def Thrown.IsPrismaError : Thrown → Prop
  | .initializationError .. | .rustPanicError .. | .knownRequestError .. | .unknownRequestError .. => True
  | _ => False

theorem parseRustRequestError_prisma (config : EngineConfig) (err : Thrown) (prisma : err.IsPrismaError) :
    parseRustRequestError genericGetErrorMessageWithLink config err = err := by
  have parsed : jsonParse (err.toJsString genericGetErrorMessageWithLink) = none := by
    cases err <;> simp only [Thrown.IsPrismaError] at prisma <;>
      exact jsonParse_errorToString _ _ _ rfl
  simp [parseRustRequestError, parsed]

/-- The panic test reads only `code` and `message`, which a `UserFacingError` hands on unchanged. -/
theorem panicTitle?_knownRequestError (message code : String) (meta : JsValue) (clientVersion : String) :
    panicTitle? genericGetErrorMessageWithLink (.knownRequestError message code meta clientVersion) =
      panicTitle? genericGetErrorMessageWithLink (.userFacingError message code meta) := rfl

theorem parseRustRequestError_cases (config : EngineConfig) (err : Thrown) :
    parseRustRequestError genericGetErrorMessageWithLink config err = err ∨
      ∃ message, parseRustRequestError genericGetErrorMessageWithLink config err =
        .unknownRequestError message config.clientVersion := by
  unfold parseRustRequestError
  split
  · split
    · exact .inr ⟨_, rfl⟩
    · exact .inl rfl
  · exact .inl rfl

/-- Off the panic branch the transform does not read `lastStartedQuery`. -/
theorem transformRequestError_of_noPanic (config : EngineConfig) (lastStartedQuery again : Option String)
    (err : Thrown) (noPanic : panicTitle? genericGetErrorMessageWithLink err = .ok none) :
    transformRequestError genericGetErrorMessageWithLink config lastStartedQuery err =
      transformRequestError genericGetErrorMessageWithLink config again err := by
  unfold transformRequestError
  split <;> simp only [noPanic]

theorem transformRequestError_of_pass (config : EngineConfig) (lastStartedQuery : Option String)
    (err : Thrown) (prisma : err.IsPrismaError)
    (noPanic : panicTitle? genericGetErrorMessageWithLink err = .ok none) :
    transformRequestError genericGetErrorMessageWithLink config lastStartedQuery err = .ok err := by
  have parsed := parseRustRequestError_prisma genericGetErrorMessageWithLink config err prisma
  cases err <;> simp only [Thrown.IsPrismaError] at prisma <;>
    simp [transformRequestError, noPanic, parsed]

theorem transformRequestError_idempotent (config : EngineConfig) (lastStartedQuery again : Option String)
    (err result : Thrown)
    (first : transformRequestError genericGetErrorMessageWithLink config lastStartedQuery err = .ok result) :
    transformRequestError genericGetErrorMessageWithLink config again result = .ok result := by
  have original := first
  unfold transformRequestError at first
  split at first
  · cases first
    rfl
  · split at first
    · cases first
    · cases first
      exact transformRequestError_of_pass _ _ _ _ trivial rfl
    · rename_i noPanic
      split at first
      · cases first
        exact transformRequestError_of_pass _ _ _ _ trivial noPanic
      · cases first
        rcases parseRustRequestError_cases genericGetErrorMessageWithLink config err with same | ⟨message, unknown⟩
        · rw [same] at original ⊢
          rwa [transformRequestError_of_noPanic _ _ again lastStartedQuery _ noPanic]
        · rw [unknown]
          exact transformRequestError_of_pass _ _ _ _ trivial rfl

end

/-- A unique-constraint failure from the interpreter, classified once and then again. -/
theorem uniqueConstraint_classified_twice :
    transformRequestError ErrorLinkArgs.title ⟨"6.0.0", "postgresql"⟩ none
        (.userFacingError "Unique constraint failed" "P2002" .undefined) =
      .ok (.knownRequestError "Unique constraint failed" "P2002" .undefined "6.0.0") ∧
    transformRequestError ErrorLinkArgs.title ⟨"6.0.0", "postgresql"⟩ (some "query")
        (.knownRequestError "Unique constraint failed" "P2002" .undefined "6.0.0") =
      .ok (.knownRequestError "Unique constraint failed" "P2002" .undefined "6.0.0") :=
  have first : transformRequestError ErrorLinkArgs.title ⟨"6.0.0", "postgresql"⟩ none
      (.userFacingError "Unique constraint failed" "P2002" .undefined) =
      .ok (.knownRequestError "Unique constraint failed" "P2002" .undefined "6.0.0") := by
    simp [transformRequestError, panicTitle?, Thrown.get?]
  ⟨first, transformRequestError_idempotent _ _ _ _ _ _ first⟩

end Prisma.ClientEngine.Errors

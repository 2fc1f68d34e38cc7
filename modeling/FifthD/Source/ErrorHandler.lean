import Mathlib.Tactic.TypeStar

/-!
Results and errors: core/common/5thderror_handler.h. The `Result`, `Err` and
`Severity` types themselves come from qwistys_error_handler.h, which the
repository only references as a submodule; what the code here uses of them is a
value or an error with a code, a message and an optional severity.
-/
namespace FifthD.Source

/-- `enum class ErrorCode`, in the source's order. -/
inductive ErrorCode where
  | OK | SOCKET_INIT_FAIL | SOCKET_CLOSE_FAIL | SOCKET_SEND_FAIL | SOCKET_TIMEOUT
  | SOCKET_CONNECT_FAIL | FAIL_POLL_SOCKET | SEND_HEARTBEAT_FAIL | FAIL_CLOSE_ZQM_CTX
  | FAIL_CLOSE_ZQM_SOCKET | FAIL_OPEN_ZMQ_CTX | FAIL_OPEN_SOCKET | FAIL_TO_BIND
  | FAIL_BIND_SOCKET | FAIL_INIT_LISTENER | FAIL_INIT_KEYS | FAIL_SET_SOCKOPT
  | FAIL_SETSOCKOPT_ID | FAIL_UPNP_FORWARD | FIAIL_RECV_MSG | FAIL_SEND_FRAME | NO_OBJECT
  | OBJ_RECEIVER_INIT_FAIL | FAIT_INIT_DB | FAIL_CREATE_DB_SCHEME | FAIL_OPEN_DB_FILE
  | FAIL_DECRYPT_DB | DB_PREPARE_STATEMENT_FAILED | DB_STATEMENT_EXECUTION_FAILED
  | DB_BIND_FAILED | KEY_NOT_FOUND | FAIL_ADD_KEY | FAIL_UPDATE_KEY | FAIL_GET_KEY
  | FAIL_REMOVE_KEY | KEY_TYPE_NOT_FOUND | NO_VALID_DB | DB_MISSING_TABLES | FAIL_DB_EXEC
  | DB_ERROR | FAIL_CLOSE_DB | INVALID_IDENTITY | MANAGE_BUFF_FULL | MANAGE_BUFF_OVERFLOW
  | MANAGE_BUFF_MONKEY | MANAGE_BUFF_NULL_ON_RELEASE | MANAGE_BUFF_SLOT_NOT_IN_RANGE
  | MONKEY | TOTAL
  deriving DecidableEq, Repr

inductive Severity where
  | LOW | MEDIUM | HIGH | CRITICAL
  deriving DecidableEq, Repr

/-- The arguments of `Err`; no severity is the default of the missing header. -/
structure Error where
  code : ErrorCode
  message : String
  severity : Option Severity := none
  deriving DecidableEq, Repr

abbrev Result (α : Type*) := Except Error α

abbrev VoidResult := Result Unit

/-- `Err(code, message, severity)`. -/
def err {α : Type*} (code : ErrorCode) (message : String)
    (severity : Option Severity := none) : Result α :=
  .error { code, message, severity }

/-- `Result::is_err`. -/
def isErr {α : Type*} : Result α → Bool
  | .ok _ => false
  | .error _ => true

/-- `ErrorHandler::handle_error` runs the recovery action of an error's code.
Its code is not in the repository, so only its answer is a part of the model. -/
structure ErrorHandler where
  handleError : Error → Bool

end FifthD.Source

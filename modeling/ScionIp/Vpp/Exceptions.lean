import ScionIp.Lib.Digits
import ScionIp.Lib.Raises

/-!
# Failures of the VPP path manager

The exceptions that its functions and its libraries throw, and the two other ways not to return: a
step without defined behaviour, and a loop that waits for ever. `CppException.isRuntimeError` and
`CppException.isSystemError` are the classes the handlers in `main.cpp` name.
-/

namespace ScionIp.Vpp

open ScionIp.Lib

/-- The categories of the error codes. Kind: D -/
inductive ErrorCategory where
  | generic
  | system
  | asio
  deriving DecidableEq, Repr

/-- `std::error_code`. Kind: D -/
structure ErrorCode where
  category : ErrorCategory
  value : ℤ
  deriving DecidableEq, Repr

/-- Source: `errno.h`, `ENOENT`. Kind: D -/
def ENOENT : ℤ := 2

/-- Source: `errno.h`, `ESRCH`, the code of `std::errc::no_such_process`. Kind: D -/
def ESRCH : ℤ := 3

/-- Source: `dataplane.cpp`, the cases of `VapiErrorCategory::message`. Kind: D -/
inductive VapiErrorCode where
  | VAPI_OK
  | VAPI_EINVAL
  | VAPI_EAGAIN
  | VAPI_ENOTSUP
  | VAPI_ENOMEM
  | VAPI_ENORESP
  | VAPI_EMAP_FAIL
  | VAPI_ECON_FAIL
  | VAPI_EINCOMPATIBLE
  | VAPI_MUTEX_FAILURE
  | VAPI_EUSER
  | VAPI_ENOTSOCK
  | VAPI_EACCES
  | VAPI_ECONNRESET
  | VAPI_ESOCK_FAILURE
  deriving DecidableEq, Repr

/-- The exceptions of the path manager and its libraries, by their class.
Source: `config.hpp`, `dataplane.hpp`, and the standard library. Kind: D -/
inductive CppException where
  | runtime_error (what : String)
  | toml_parse_error (what : Text)
  | ConfigError (what : String)
  | DataplaneError (retval : ℤ) (what : String)
  | system_error (code : ErrorCode) (what : String)
  | filesystem_error (code : ErrorCode) (what : String)
  | VapiError (code : VapiErrorCode) (what : String)
  | invalid_argument (what : String)
  | out_of_range (what : String)
  | bad_optional_access
  deriving DecidableEq

namespace CppException

/-- Is the class derived from `std::runtime_error`? The other ones here are derived from
`std::logic_error` and `std::exception`. Kind: D -/
def isRuntimeError : CppException → Bool
  | invalid_argument _ => false
  | out_of_range _ => false
  | bad_optional_access => false
  | _ => true

/-- Is the class derived from `std::system_error`? Kind: D -/
def isSystemError : CppException → Bool
  | system_error _ _ => true
  | filesystem_error _ _ => true
  | VapiError _ _ => true
  | _ => false

end CppException

/-- What ends a function without a result. Kind: D -/
inductive Failure where
  | thrown (exc : CppException)
  | undefined
  | stuck
  deriving DecidableEq

namespace Failure

/-- Is it caught by `catch (std::runtime_error&)`? Kind: D -/
def isRuntimeError : Failure → Bool
  | thrown exc => exc.isRuntimeError
  | _ => false

/-- Is it caught by `catch (const std::system_error&)`? Kind: D -/
def isSystemError : Failure → Bool
  | thrown exc => exc.isSystemError
  | _ => false

end Failure

/-- A computation of the path manager that changes nothing. Kind: D -/
abbrev Cpp (α : Type) := Except Failure α

/-- A function of `asio` called without an error code throws it. Kind: D -/
def orThrow {α : Type} (what : String) (x : Except ErrorCode α) : Cpp α :=
  x.mapError fun code => .thrown (.system_error code what)

end ScionIp.Vpp

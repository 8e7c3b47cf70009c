import RowLoader.Connection.Host
import RowLoader.Connection.Settings

/-!
# Endpoints

Where a server is reached: at a host of the network, or at a socket of this machine. `Endpoint.fault?` finds what is wrong with
an endpoint by itself, before anything is sent to it.
-/

namespace RowLoader.Connection

inductive Endpoint where
  | host (name : String)
  /-- a socket with a path, or, behind a NUL, with a name -/
  | socket (path : String)
  deriving DecidableEq

inductive EndpointFault where
  | nulInHost
  | unknownHost
  | nulInPath
  | longPath
  | longName
  | noPath
  | notFound
  /-- what is there is no socket, or nothing listens at it -/
  | notListening
  deriving DecidableEq

def EndpointFault.message : EndpointFault → String
  | nulInHost => "file name contained an unexpected NUL byte"
  | unknownHost => "failed to lookup address information: Temporary failure in name resolution"
  | nulInPath => "paths must not contain interior null bytes"
  | longPath => "path must be shorter than SUN_LEN"
  | longName => "abstract socket name must be shorter than SUN_LEN"
  | noPath => "Invalid argument (os error 22)"
  | notFound => "No such file or directory (os error 2)"
  | notListening => "Connection refused (os error 111)"

/-! ### hosts -/

/-- An address needs no name service; one of version 6 may stand in brackets. -/
def isAddress (name : List Char) : Bool :=
  (isAddress4 name && name.getLast? != some '.') || isAddress6 name ||
    (name.head? = some '[' && name.getLast? = some ']' && isAddress6 name.tail.dropLast)

/-- Of names, only that of this machine is known; the others are not asked for. -/
def isKnownHost (name : String) : Bool := isAddress name.toList || name.map Char.toLower = "localhost"

/-! ### sockets -/

/-- What the path of a socket has room for, in bytes. -/
def socketPathLimit : Nat := 108

/-- The root folder and some of those in it, which are on every machine. -/
def isCommonFolder (path : List Char) : Bool :=
  match (Text.pieces '/' path).filter fun s => !(s.isEmpty || s = ['.'] || s = ['.', '.']) with
  | [] => true
  | [name] => path.head? = some '/' && ["dev", "etc", "proc", "tmp", "usr"].contains (String.ofList name)
  | _ => false

/-- No server listens at a socket of this machine. -/
def socketFault (path : String) : EndpointFault :=
  match path.toList with
  | [] => .noPath
  | '\x00' :: _ => if path.utf8ByteSize ≤ socketPathLimit then .notListening else .longName
  | s =>
    if s.contains '\x00' then .nulInPath
    else if socketPathLimit ≤ path.utf8ByteSize then .longPath
    else if isCommonFolder s then .notListening
    else .notFound

def Endpoint.fault? : Endpoint → Option EndpointFault
  | host name =>
    if isKnownHost name then none
    else if name.contains '\x00' then some .nulInHost
    else some .unknownHost
  | socket path => some (socketFault path)

/-! ### access -/

/-- Where a server is reached, and who logs in. -/
structure Access where
  endpoint : Endpoint
  login : Login
  deriving DecidableEq

def Settings.access (s : Settings) : Access := ⟨.host s.host, s.login⟩

end RowLoader.Connection

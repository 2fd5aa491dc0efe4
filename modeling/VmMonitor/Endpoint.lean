import VmMonitor.Document.Decode

/-!
# Endpoints

Where an instance is reached: by its process id on this machine, by host and port, or by a service
address. A password is read but never written.
-/

namespace VmMonitor

/-- Where an instance is reached. -/
inductive Endpoint
  | localProcess (pid : Nat)
  | remote (host : String) (port : Nat) (user password : Option String)
  | url (url : String) (user password : Option String)
  deriving DecidableEq, Repr, Inhabited

namespace Endpoint

/-- A user in front of an address, unless there is none or its name is empty. -/
def withUser (user : Option String) (address : String) : String :=
  match user with
  | some u => if u.isEmpty then address else u ++ "@" ++ address
  | none => address

/-- The name that logs and errors use for a connection. -/
def connectionName : Endpoint → String
  | localProcess pid => toString pid
  | remote host port user _ => withUser user (host ++ ":" ++ toString port)
  | url address user _ => withUser user address

open Decode in
/-- Reads an endpoint: one alternative with the record of its fields. -/
def decode (format : Format) : Decoder Endpoint := fun d => do
  match ← alternative format d with
  | ("local", some content) => do
    let r ← record format [⟨"pid", []⟩] content
    return localProcess (← r.required "pid" (natBelow (twoTo 32)))
  | ("remote", some content) => do
    let r ← record format [⟨"host", []⟩, ⟨"port", []⟩, ⟨"user", []⟩, ⟨"password", []⟩] content
    return remote (← r.required "host" text) (← r.required "port" (natBelow (twoTo 16)))
      (← r.nullable "user" text) (← r.nullable "password" text)
  | ("url", some content) => do
    let r ← record format [⟨"url", []⟩, ⟨"user", []⟩, ⟨"password", []⟩] content
    return url (← r.required "url" text) (← r.nullable "user" text) (← r.nullable "password" text)
  | _ => none

/-- The document of an endpoint, without its password. -/
def encode : Endpoint → Doc
  | localProcess pid => .record [("local", .record [("pid", .nat pid)])]
  | remote host port user _ =>
    .record [("remote", .record
      [("host", .text host), ("port", .nat port), ("user", .optional Doc.text user)])]
  | url address user _ =>
    .record [("url", .record [("url", .text address), ("user", .optional Doc.text user)])]

end Endpoint

end VmMonitor

import OvsdbClient.Json.Decoder
import OvsdbClient.Settings.Objection
import OvsdbClient.Text.Blank

/-!
# TLS files

The files that identify a client to servers reached over TLS.
-/

namespace OvsdbClient

open Json (Decoder)
open Json.Decoder (Field)

/-- The paths of a client's TLS files. -/
structure TlsFiles where
  privateKey : String
  certificate : String
  authority : String
deriving DecidableEq, Inhabited

namespace TlsFiles

/-- The files with their names in settings. -/
def named (files : TlsFiles) : List (String × String) :=
  [("private_key", files.privateKey), ("certificate", files.certificate),
    ("ca_cert", files.authority)]

def validate (files : TlsFiles) : Except Objection Unit :=
  match files.named.find? fun (_, path) => Text.allBlank path with
  | some (field, _) => .error (.emptyFile field)
  | none => .ok ()

structure Draft where
  privateKey : Option String := none
  certificate : Option String := none
  authority : Option String := none

def decoder : Decoder TlsFiles := fun place json => do
  let fields := [
    Field.of "private_key" Draft.privateKey
      (fun draft privateKey => { draft with privateKey }) Decoder.string,
    Field.of "certificate" Draft.certificate
      (fun draft certificate => { draft with certificate }) Decoder.string,
    Field.of "ca_cert" Draft.authority
      (fun draft authority => { draft with authority }) Decoder.string]
  let draft ← Decoder.record fields {} place json
  let privateKey ← Decoder.required draft.privateKey
  let certificate ← Decoder.required draft.certificate
  let authority ← Decoder.required draft.authority
  return ⟨privateKey, certificate, authority⟩

def toJson (files : TlsFiles) : Json :=
  .record (files.named.map fun (name, path) => (name, .string path))

end TlsFiles

end OvsdbClient

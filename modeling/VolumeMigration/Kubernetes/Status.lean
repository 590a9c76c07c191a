import VolumeMigration.Json.Decoder

/-!
# How a request ended

The answer to a request may be a status, which says in words whether the request succeeded and why
not. A status is not used further, but it has to be well formed: `checkStatus` refuses it if a part
that it may have is of the wrong type, or occurs twice.
-/

namespace VolumeMigration

open Json (Decoder)
open Json.Decoder (text nat16 nat32 list record optional ifGiven)

/-- The word for the end of a request. It may also be written as the name of a null value. -/
def checkOutcome : Decoder Unit := fun json =>
  let word : Option String :=
    match json with
    | .string word => some word
    | .object [(word, .null)] => some word
    | _ => none
  if word = some "Success" || word = some "Failure" then some () else none

/-- Reads texts that are empty where they are not given. -/
def checkTexts (names : List String) (json : Json) : Option Unit :=
  names.forM fun name => (ifGiven name "" text json).map fun _ => ()

/-- One cause of a refusal, all of whose members are texts. -/
def checkCause : Decoder Unit := record ["reason", "message", "field"] <|
  checkTexts ["reason", "message", "field"]

/-- The details of a refusal. -/
def checkDetails : Decoder Unit :=
  record ["name", "group", "kind", "uid", "causes", "retryAfterSeconds"] fun json => do
    checkTexts ["name", "group", "kind", "uid"] json
    let _ ← ifGiven "causes" [] (list checkCause) json
    let _ ← ifGiven "retryAfterSeconds" 0 nat32 json
    return ()

/-- A refusal as the server sends it. -/
def checkStatus : Decoder Unit :=
  record ["status", "code", "message", "reason", "details"] fun json => do
    let _ ← optional "status" checkOutcome json
    let _ ← ifGiven "code" 0 nat16 json
    checkTexts ["message", "reason"] json
    let _ ← optional "details" checkDetails json
    return ()

end VolumeMigration

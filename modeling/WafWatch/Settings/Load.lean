import WafWatch.Host.Basic
import WafWatch.Settings.Document
import WafWatch.Settings.Environment
import WafWatch.Settings.Validation
import WafWatch.Toml.Document

/-!
This module contains the loading of settings: what a document leaves out is taken from the defaults,
the environment overrides the document, and the result is checked. The text in which the TOML library says
what is wrong with a document is taken as it is.
-/

namespace WafWatch

namespace Settings

/--
Read a document, where `wording` is what the TOML library says about one that does not give settings.
-/
def parse (wording : String → String) (s : List Char) : Except ServiceError Settings :=
  match Toml.read s with
  | .error _ => .error (.badConfig (wording (String.ofList s)))
  | .ok entries =>
    match Toml.putEntries fields {} entries with
    | .error _ => .error (.badConfig (wording (String.ofList s)))
    | .ok settings => .ok settings

def ofFile (wording : String → String) (path : String) (view : FileView) :
    Except ServiceError Settings :=
  match view.opening, view.reading with
  | .error .notFound, _ => .error (.noConfig path)
  | .error error, _ => .error (.io error)
  | .ok _, .error error => .error (.io error)
  | .ok _, .ok octets =>
    match Text.decode? octets with
    | some chars => parse wording chars
    | none => .error (.io .notText)

/--
Load settings: read a file, let the environment override what it says, and check the result.
-/
def load (wording : String → String) (path : String) (view : FileView) (environment : Environment) :
    Except ServiceError Settings := do
  let settings := (← ofFile wording path view).override environment
  settings.validate
  pure settings

end Settings

end WafWatch

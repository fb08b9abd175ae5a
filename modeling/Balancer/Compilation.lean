import Balancer.Assembly
import Balancer.Layout
import Balancer.Normal

/-!
# Compilation

A document becomes text in three steps: the configuration it describes is assembled, brought to
normal form, and written out. The first error ends it.
-/

namespace Balancer

/-- **The errors of compilation** after the document is read. -/
inductive CompileError where
  | build (error : BuildError)
  | normalize (error : NormalizeError)
deriving DecidableEq, Repr

/-- The text of an error of compilation. -/
def CompileError.message : CompileError → String
  | build error => error.message
  | normalize error => error.message

/-- **The normal configuration** that a document describes. -/
def Document.compile (environment : Environment) (document : Document) :
    Except CompileError Configuration :=
  match Configuration.ofDocument environment document with
  | .error error => .error (.build error)
  | .ok config =>
    match config.normalize with
    | .error error => .error (.normalize error)
    | .ok config => .ok config

end Balancer

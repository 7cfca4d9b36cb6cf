/-!
# Log lines

What a run reports beside its result. A line has a level, the part of the program that speaks, and a
message. `Logged` carries lines along a computation in the order in which they arise; a computation
that fails keeps the lines it has written.
-/

namespace FormPress

/-- How much a line matters. -/
inductive Level where
  | debug | info | warning | error
deriving DecidableEq, Repr

def Level.label : Level → String
  | .debug => "DEBUG"
  | .info => "INFO"
  | .warning => "WARNING"
  | .error => "ERROR"

def Level.rank : Level → Nat
  | .debug => 0
  | .info => 1
  | .warning => 2
  | .error => 3

/-- The part of the program that writes a line. -/
inductive Speaker where
  | command | compiler | conditions | settings | fields | language | images | forms | pages
  | submission | theme | animation
deriving DecidableEq, Repr

/-- The name under which a part writes. -/
def Speaker.name : Speaker → String
  | .command => "formforge.cli"
  | .compiler => "formforge.compiler"
  | .conditions => "formforge.conditions"
  | .settings => "formforge.config"
  | .fields => "formforge.fields"
  | .language => "formforge.i18n"
  | .images => "formforge.images"
  | .forms => "formforge.models"
  | .pages => "formforge.pagination"
  | .submission => "formforge.submission"
  | .theme => "formforge.theme"
  | .animation => "formforge.animation"

structure LogLine where
  level : Level
  speaker : Speaker
  message : String
deriving DecidableEq, Repr

/-- A result with the lines written on the way. -/
structure Logged (α : Type) where
  lines : List LogLine
  result : α

namespace Logged

variable {α β : Type}

/-- A result without lines. -/
def quiet (a : α) : Logged α :=
  ⟨[], a⟩

/-- Continue with the result; the new lines come after the old ones. -/
def bind (x : Logged α) (f : α → Logged β) : Logged β :=
  let y := f x.result
  ⟨x.lines ++ y.lines, y.result⟩

instance : Monad Logged where
  pure := quiet
  bind := bind

def write (line : LogLine) : Logged Unit :=
  ⟨[line], ()⟩

/-- A single line from its parts. -/
def tell (level : Level) (speaker : Speaker) (message : String) : Logged Unit :=
  write ⟨level, speaker, message⟩

@[simp] theorem lines_pure (a : α) : (pure a : Logged α).lines = [] := rfl

@[simp] theorem result_pure (a : α) : (pure a : Logged α).result = a := rfl

@[simp] theorem lines_bind (x : Logged α) (f : α → Logged β) :
    (x >>= f).lines = x.lines ++ (f x.result).lines := rfl

@[simp] theorem result_bind (x : Logged α) (f : α → Logged β) :
    (x >>= f).result = (f x.result).result := rfl

end Logged

end FormPress

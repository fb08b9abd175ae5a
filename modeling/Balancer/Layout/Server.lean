import Balancer.Config.Server
import Balancer.Layout.Line

/-!
# Server lines

Options stand on a line in the order of the slots. A switch is written by its keyword and only
where it is on; every other option is a keyword and a value.
-/

namespace Balancer

open Layout Text

/-- The words of a value of a slot type under a keyword. -/
def SlotType.words (keyword : String) : (type : SlotType) → type.Carrier → Line
  | .flag, on => Layout.flag keyword on
  | .port, n => [keyword, natText n]
  | .count, n => [keyword, natText n]
  | .text, s => [keyword, s]
  | .texts, items => [keyword, join "," items]

/-- The words of a slot. -/
def ServerSlot.words (slot : ServerSlot) : Option slot.type.Carrier → Line
  | none => []
  | some value => slot.type.words slot.keyword value

/-- **The words of all options.** -/
def ServerOptions.words (options : ServerOptions) : Line :=
  ServerSlot.all.flatMap fun slot => slot.words (options.get slot)

/-- **The line of a server.** -/
def Server.line (server : Server) : Line :=
  ["server", server.name, Layout.address server.address server.port] ++ server.options.words

/-- The line of a family of servers. -/
def ServerTemplate.line (template : ServerTemplate) : Line :=
  ["server-template", template.stem, template.count, Layout.address template.fqdn template.port] ++
    template.options.words

/-- What a health check says about the timing of its servers. Counts that the engine would use by
itself are not repeated. -/
def HealthCheck.timing (check : HealthCheck) : ServerOptions where
  inter := check.inter
  rise := if check.rise = HealthCheck.defaultRise then none else some check.rise
  fall := if check.fall = HealthCheck.defaultFall then none else some check.fall

/-- The options that every server of a pool starts from: the author's, and the timing of the health
check for what they leave open. -/
def effectiveDefaults (defaults : Option ServerOptions) (check : Option HealthCheck) :
    Option ServerOptions :=
  match check with
  | none => defaults
  | some check =>
    let timing := check.timing
    if timing = {} then defaults
    else
      let own := defaults.getD {}
      some { own with
        inter := own.inter.or timing.inter
        rise := own.rise.or timing.rise
        fall := own.fall.or timing.fall }

/-- The line of the options that every server starts from. -/
def ServerOptions.defaultLine (options : ServerOptions) : Line :=
  "default-server" :: options.words

end Balancer

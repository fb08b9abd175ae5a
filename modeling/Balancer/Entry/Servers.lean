import Balancer.Entry.Fields

/-!
# Reading servers

Servers, their options, and what is attached to them. An option is converted to the type of its
slot the same way whether it is written on a server or comes from a template; the two differ only
in what happens to a slot that is set already.
-/

namespace Balancer

open FieldReader

/-! ### Options -/

/-- The conversion of a value to the type of a slot. -/
def SlotType.convert (key : String) (value : Value) :
    (type : SlotType) → Except FieldError type.Carrier
  | .flag => value.toFlag key
  | .port => value.toPort key
  | .count => value.toCount key
  | .text => value.toText key
  | .texts => value.toTexts key

/-- The conversion of a value to the type of a slot. -/
def ServerSlot.convert (slot : ServerSlot) (value : Value) :
    Except FieldError slot.type.Carrier :=
  slot.type.convert slot.key value

/-- Sets the option with a given key; `none` where there is no such option. -/
def ServerOptions.assign? (options : ServerOptions) (key : String) (value : Value) :
    Option (Except FieldError ServerOptions) :=
  (ServerSlot.ofKey? key).map fun slot => do return options.set slot (← slot.convert value)

/-- Fills the option with a given key if it is unset; `none` where there is no such option. The
value is converted in either case. -/
def ServerOptions.fill? (options : ServerOptions) (key : String) (value : Value) :
    Option (Except FieldError ServerOptions) :=
  (ServerSlot.ofKey? key).map fun slot => do return options.fill slot (← slot.convert value)

/-- Fills the port or the option with a given key if it is unset. -/
def Server.fill? (server : Server) (key : String) (value : Value) :
    Option (Except FieldError Server) :=
  if key = "port" then
    some do
      let port ← value.toPort key
      return { server with port := server.port.or (some port) }
  else
    (server.options.fill? key value).map fun result => do
      return { server with options := ← result }

/-- Reads the options of a server out of the given fields. -/
def ServerOptions.ofEntries (fields : Fields) (entries : List (String × Value)) :
    Except BuildError ServerOptions :=
  entries.foldlM
    (fun options (key, value) =>
      match options.assign? key value with
      | none => .error (.unknownKey key fields.directive fields.position)
      | some (.ok options) => .ok options
      | some (.error e) => .error (fields.fieldError e))
    {}

/-! ### Servers -/

/-- The name of a server: its label, or the field `name` where the name has to be interpolated. -/
def Server.nameOf (fields : Fields) (field : Option String) : Except BuildError String :=
  match fields.labels, field with
  | [label], none => .ok label
  | [], some name => .ok name
  | [_], some _ => .error (fields.invalid .nameTwice)
  | _, _ => .error (fields.missing .serverName)

/-- A server that spreads the given templates. -/
def Server.ofFields (fields : Fields) (spreads : List String) : Except BuildError Server := do
  let name ← Server.nameOf fields (← (text? "name").read fields)
  let address ← (text "address").read fields
  let port ← (port? "port").read fields
  let options ← ServerOptions.ofEntries fields (fields.others ["name", "address", "port"])
  return { name, address, port, options, spreads }

/-- The options that the servers of a section start from. -/
def ServerOptions.ofFields (fields : Fields) : Except BuildError ServerOptions := do
  fields.noLabel
  ServerOptions.ofEntries fields fields.entries.entries

/-- A family of servers whose names start with the label. -/
def ServerTemplate.ofFields (fields : Fields) : Except BuildError ServerTemplate := do
  let stem ← fields.soleLabel .stemLabel
  let count ← (text "count").read fields
  let fqdn ← (text "fqdn").read fields
  let port ← (port? "port").read fields
  let options ← ServerOptions.ofEntries fields (fields.others ["count", "fqdn", "port"])
  return { stem, count, fqdn, port, options }

/-! ### Cookies and health checks -/

/-- The cookie named by the label. -/
def Cookie.ofFields (fields : Fields) : Except BuildError Cookie := do
  let name ← fields.soleLabel .cookieLabel
  (Cookie.mk name <$> text? "mode" <*> flag "indirect" <*> flag "nocache" <*> flag "httponly"
    <*> flag "secure" <*> text? "domain" <*> text? "maxidle" <*> text? "maxlife").readAll fields

/-- The protocol of a health check, HTTP where none is named. -/
def CheckKind.ofField (fields : Fields) : Option String → Except BuildError CheckKind
  | none => .ok .http
  | some name =>
    match CheckKind.ofDirective? name with
    | some kind => .ok kind
    | none => .error (fields.invalid (.unknownCheck name))

/-- A health check. -/
def HealthCheck.ofFields (fields : Fields) : Except BuildError HealthCheck := do
  fields.noLabel
  let kind ← CheckKind.ofField fields (← (text? "type").read fields)
  let reader : FieldReader HealthCheck :=
    HealthCheck.mk kind <$> text? "method" <*> text? "uri" <*> text? "version" <*> text? "host"
      <*> text? "expect" <*> text? "user" <*> flag "disable_on_404" <*> text? "inter"
      <*> ((Option.getD · HealthCheck.defaultRise) <$> count? "rise")
      <*> ((Option.getD · HealthCheck.defaultFall) <$> count? "fall")
  let check ← reader.read fields
  if kind.isDatabase && check.user.isNone then throw (fields.missing .databaseUser)
  fields.finish ("type" :: reader.keys)
  return check

end Balancer

import Balancer.Entry.Fields

/-!
# Reading directives

How the fields of an object become one of the flat records of a configuration. The labels are
checked before the fields, and the fields in the order in which they are listed.
-/

namespace Balancer

open FieldReader

/-! ### Listening and conditions -/

/-- An address to listen on, named by the label. -/
def Bind.ofFields (fields : Fields) : Except BuildError Bind := do
  let address ← fields.label "address"
  let reader : FieldReader Bind :=
    Bind.mk address <$> port? "port" <*> flag "ssl" <*> texts "crt" <*> text? "crt_list"
      <*> text? "ca_file" <*> text? "verify" <*> texts "alpn" <*> text? "ciphers"
      <*> text? "ciphersuites" <*> text? "ssl_min_ver" <*> text? "ssl_max_ver"
      <*> flag "strict_sni" <*> flag "accept_proxy" <*> flag "transparent" <*> flag "v4v6"
      <*> flag "v6only" <*> flag "defer_accept" <*> flag "tfo" <*> flag "allow_0rtt"
      <*> text? "interface" <*> text? "name" <*> text? "mode" <*> text? "user" <*> text? "group"
      <*> text? "level" <*> count? "maxconn"
  reader.readAll fields

/-- A named condition. -/
def Acl.ofFields (fields : Fields) : Except BuildError Acl := do
  let name ← fields.label "name"
  (Acl.mk name <$> text "criterion" <*> texts "flags" <*> texts "values").readAll fields

/-- A rule of a family, whose action is the label. Every field but the condition is a parameter,
in the author's order. -/
def Rule.ofFields (kind : RuleKind) (fields : Fields) : Except BuildError Rule := do
  let action ← fields.label "action"
  let condition ← (text? "condition").read fields
  let params ← (fields.others ["condition"]).mapM fun (key, value) =>
    match value.render with
    | some rendered => .ok (key, rendered)
    | none => .error (fields.fieldError (value.mismatch key "scalar or list"))
  return { kind, action, params := OrderedMap.ofList params, condition }

/-! ### Routing -/

/-- The choice of the backend named by the label. -/
def UseBackend.ofFields (fields : Fields) : Except BuildError UseBackend := do
  let backend ← fields.label "backend"
  (UseBackend.mk backend <$> text? "condition").readAll fields

/-- The choice of the server named by the label. -/
def UseServer.ofFields (fields : Fields) : Except BuildError UseServer := do
  let server ← fields.label "server"
  (UseServer.mk server <$> text? "condition").readAll fields

/-- A redirect of the kind named by the label. -/
def Redirect.ofFields (fields : Fields) : Except BuildError Redirect := do
  let label ← fields.label "redirect kind"
  match RedirectKind.ofKeyword? label with
  | none => throw (fields.invalid (.unknownRedirect label))
  | some kind =>
    (Redirect.mk kind <$> text "target" <*> port? "code" <*> flag "drop_query"
      <*> flag "append_slash" <*> text? "set_cookie" <*> text? "condition").readAll fields

/-! ### Stick tables -/

/-- A stick table. -/
def StickTable.ofFields (fields : Fields) : Except BuildError StickTable := do
  fields.noLabel
  (StickTable.mk <$> text "type" <*> count? "len" <*> text "size" <*> text? "expire"
    <*> flag "nopurge" <*> text? "peers" <*> texts "store").readAll fields

/-- A stick rule of the kind named by the label. -/
def StickRule.ofFields (fields : Fields) : Except BuildError StickRule := do
  let label ← fields.label "stick rule kind"
  match StickRuleKind.ofDirective? label with
  | none => throw (fields.invalid (.unknownStickRule label))
  | some kind =>
    (StickRule.mk kind <$> text "pattern" <*> text? "table" <*> text? "condition").readAll fields

/-! ### Responses -/

/-- Compression of responses. -/
def Compression.ofFields (fields : Fields) : Except BuildError Compression := do
  fields.noLabel
  (Compression.mk <$> texts "algo" <*> texts "type" <*> flag "offload").readAll fields

/-- The status code that the label of an error page gives. -/
def ErrorPage.statusCode (label : String) : Except FieldError Nat :=
  (Value.text label).toPort "status code"

/-- How an error page answers, from its file, its location and its redirect code. -/
def ErrorPage.answer (fields : Fields) :
    Option String → Option String → Option Nat → Except BuildError (ErrorPageKind × String)
  | some file, none, none => .ok (.file, file)
  | none, some location, none => .ok (.location, location)
  | none, some location, some code =>
    if code = 302 then .ok (.location302, location)
    else if code = 303 then .ok (.location303, location)
    else .error (fields.invalid (.redirectCode code))
  | some _, some _, _ => .error (fields.invalid .fileAndLocation)
  | some _, none, some _ => .error (fields.invalid .codeWithoutLocation)
  | none, none, _ => .error (fields.missing .pageTarget)

/-- The answer to the status code in the label. -/
def ErrorPage.ofFields (fields : Fields) : Except BuildError ErrorPage := do
  let label ← fields.label "status code"
  let code ←
    match ErrorPage.statusCode label with
    | .ok code => pure code
    | .error e => throw (fields.fieldError e)
  let file ← (text? "file").read fields
  let location ← (text? "location").read fields
  let redirect ← (port? "code").read fields
  let (kind, target) ← ErrorPage.answer fields file location redirect
  fields.finish ["file", "location", "code"]
  return { code, kind, target }

/-! ### Observation -/

/-- The statistics page. -/
def Stats.ofFields (fields : Fields) : Except BuildError Stats := do
  fields.noLabel
  (Stats.mk <$> flag "enable" <*> text? "uri" <*> text? "realm" <*> texts "auth"
    <*> text? "refresh" <*> flag "hide_version" <*> flag "show_legends" <*> flag "show_node"
    <*> text? "admin" <*> texts "scope").readAll fields

/-- The log target whose address is the label. -/
def LogTarget.ofFields (fields : Fields) : Except BuildError LogTarget := do
  let address ← fields.label "address"
  let reader : FieldReader LogTarget :=
    LogTarget.mk address <$> ((Option.getD · LogTarget.defaultFacility) <$> text? "facility")
      <*> text? "level" <*> text? "min_level" <*> text? "format" <*> count? "length"
  let target ← reader.read fields
  if target.minLevel.isSome && target.level.isNone then
    throw (fields.invalid .minLevelWithoutLevel)
  fields.finish reader.keys
  return target

/-- The control socket whose path is the label. -/
def StatsSocket.ofFields (fields : Fields) : Except BuildError StatsSocket := do
  let path ← fields.label "path"
  (StatsSocket.mk path <$> text? "mode" <*> text? "level" <*> text? "user" <*> text? "group"
    <*> flag "expose_fd_listeners").readAll fields

/-! ### Blocks of free keys -/

/-- Sets one timeout. -/
def Timeouts.assign (fields : Fields) (timeouts : Timeouts) (key : String) (value : Value) :
    Except BuildError Timeouts :=
  match TimeoutSlot.ofKey? key with
  | none => .error (.unknownKey key fields.directive fields.position)
  | some slot =>
    match value.toText key with
    | .ok s => .ok (timeouts.set s slot)
    | .error e => .error (fields.fieldError e)

/-- A block of timeouts. -/
def Timeouts.ofFields (fields : Fields) : Except BuildError Timeouts := do
  fields.noLabel
  fields.entries.entries.foldlM (fun timeouts (key, value) => timeouts.assign fields key value) {}

/-- Switches one option. -/
def ProxyOptions.assign (fields : Fields) (options : ProxyOptions) (key : String)
    (value : Value) : Except BuildError ProxyOptions :=
  match value.toFlag key with
  | .error e => .error (fields.fieldError e)
  | .ok on =>
    match ProxyFlag.ofKey? key with
    | none => .error (.unknownKey key fields.directive fields.position)
    | some flag => .ok (options.set flag on)

/-- What the field `forwardfor` says: it is a switch or the network to leave out. -/
def ProxyOptions.forwardfor (fields : Fields) : Except BuildError ProxyOptions :=
  match fields.entries.get? "forwardfor" with
  | none => .ok {}
  | some (.text network) =>
    if network = "true" then .ok (ProxyOptions.set {} .forwardfor true)
    else if network = "false" then .ok (ProxyOptions.set {} .forwardfor false)
    else .ok { ProxyOptions.set {} .forwardfor true with forwardforExcept := some network }
  | some value => ProxyOptions.assign fields {} "forwardfor" value

/-- A block of options. -/
def ProxyOptions.ofFields (fields : Fields) : Except BuildError ProxyOptions := do
  fields.noLabel
  let options ← ProxyOptions.forwardfor fields
  (fields.others ["forwardfor"]).foldlM
    (fun options (key, value) => options.assign fields key value) options

/-- A block whose keys are free, like `tune` or `setenv`. -/
def Fields.textMap (fields : Fields) : Except BuildError (OrderedMap String) := do
  fields.noLabel
  let entries ← fields.entries.entries.mapM fun (key, value) =>
    match value.toText key with
    | .ok s => .ok (key, s)
    | .error e => .error (fields.fieldError e)
  return OrderedMap.ofList entries

/-- The endpoint named by the label. -/
def Endpoint.ofFields (fields : Fields) : Except BuildError Endpoint := do
  let name ← fields.label "name"
  (Endpoint.mk name <$> text "address" <*> port? "port").readAll fields

end Balancer

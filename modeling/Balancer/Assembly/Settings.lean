import Balancer.Entry.Reading

/-!
# Settings

A setting is a pair that a section understands: its key, and what its value does to the section.
The settings of a section are a table, so that the keys a section knows and the way it reads them
are one list. Giving a key twice lets the second value count.
-/

namespace Balancer

/-- **Why a section refuses a directive** that belongs to it. -/
inductive Refusal where
  | field (source : FieldError)
  | fault (fault : Fault)
deriving DecidableEq, Repr

/-- **A setting** of a section: a key, and what a value does under it. -/
structure Setting (σ : Type) where
  key : String
  assign : Value → σ → Except Refusal σ

namespace Setting

variable {σ α : Type}

/-- A setting whose value is read by a conversion. -/
def ofConversion (conversion : String → Value → Except FieldError α) (key : String)
    (put : α → σ → σ) : Setting σ where
  key := key
  assign value state :=
    match conversion key value with
    | .ok a => .ok (put a state)
    | .error e => .error (.field e)

/-- A text. -/
def text (key : String) (put : String → σ → σ) : Setting σ := ofConversion Value.toText key put

/-- A switch. -/
def flag (key : String) (put : Bool → σ → σ) : Setting σ := ofConversion Value.toFlag key put

/-- A natural number of 32 bits. -/
def count (key : String) (put : Nat → σ → σ) : Setting σ := ofConversion Value.toCount key put

/-- A list of texts. -/
def texts (key : String) (put : List String → σ → σ) : Setting σ :=
  ofConversion Value.toTexts key put

/-- The state after the setting with a given key; `none` where the table has no such key. -/
def update? (table : List (Setting σ)) (key : String) (value : Value) (state : σ) :
    Except Refusal (Option σ) :=
  match table.find? fun setting => setting.key == key with
  | none => .ok none
  | some setting => some <$> setting.assign value state

end Setting

/-! ### The parts of a proxy section -/

/-- The mode of a proxy. -/
def ProxyBody.modeSetting : Setting ProxyBody where
  key := "mode"
  assign value body :=
    match value.toText "mode" with
    | .error e => .error (.field e)
    | .ok word =>
      match Mode.ofKeyword? word with
      | some mode => .ok { body with mode }
      | none => .error (.fault (.unknownMode word))

/-- The settings of every proxy section. -/
def ProxyBody.settings : List (Setting ProxyBody) :=
  [modeSetting,
   .text "description" fun s body => { body with description := s },
   .flag "disabled" fun b body => { body with disabled := b },
   .count "maxconn" fun n body => { body with maxconn := n },
   .flag "log_global" fun b body => { body with logGlobal := b },
   .text "log_format" fun s body => { body with logFormat := s },
   .text "unique_id_format" fun s body => { body with uniqueIdFormat := s },
   .text "unique_id_header" fun s body => { body with uniqueIdHeader := s }]

/-- The settings of the accepting side. -/
def Intake.settings : List (Setting Intake) :=
  [.text "default_backend" fun s intake => { intake with defaultBackend := s },
   .text "monitor_uri" fun s intake => { intake with monitorUri := s }]

/-- The settings of the serving side. -/
def Pool.settings : List (Setting Pool) :=
  [.text "balance" fun s pool => { pool with balance := Balance.ofText s },
   .text "hash_type" fun s pool => { pool with hashType := s },
   .count "retries" fun n pool => { pool with retries := n },
   .text "http_reuse" fun s pool => { pool with httpReuse := s },
   .count "fullconn" fun n pool => { pool with fullconn := n }]

/-- The keys that some proxy section understands. -/
def proxyKeys : List String :=
  ProxyBody.settings.map Setting.key ++ Intake.settings.map Setting.key ++
    Pool.settings.map Setting.key

/-! ### Other sections -/

/-- The process-wide settings. -/
def Global.settings : List (Setting Global) :=
  [.flag "daemon" fun b g => { g with daemon := b },
   .flag "master_worker" fun b g => { g with masterWorker := b },
   .text "user" fun s g => { g with user := s },
   .text "group" fun s g => { g with group := s },
   .count "uid" fun n g => { g with uid := n },
   .count "gid" fun n g => { g with gid := n },
   .text "chroot" fun s g => { g with chroot := s },
   .text "pidfile" fun s g => { g with pidfile := s },
   .count "nbthread" fun n g => { g with nbthread := n },
   .texts "cpu_map" fun ss g => { g with cpuMap := ss },
   .text "hard_stop_after" fun s g => { g with hardStopAfter := s },
   .flag "insecure_fork_wanted" fun b g => { g with insecureForkWanted := b },
   .text "description" fun s g => { g with description := s },
   .count "maxconn" fun n g => { g with maxconn := n },
   .count "maxconnrate" fun n g => { g with maxconnrate := n },
   .count "maxsessrate" fun n g => { g with maxsessrate := n },
   .count "maxsslconn" fun n g => { g with maxsslconn := n },
   .count "maxsslrate" fun n g => { g with maxsslrate := n },
   .count "ulimit_n" fun n g => { g with ulimitN := n },
   .count "spread_checks" fun n g => { g with spreadChecks := n },
   .text "ca_base" fun s g => { g with caBase := s },
   .text "crt_base" fun s g => { g with crtBase := s },
   .text "ssl_default_bind_ciphers" fun s g => { g with sslDefaultBindCiphers := s },
   .text "ssl_default_bind_ciphersuites" fun s g => { g with sslDefaultBindCiphersuites := s },
   .texts "ssl_default_bind_options" fun ss g => { g with sslDefaultBindOptions := ss },
   .text "ssl_default_server_ciphers" fun s g => { g with sslDefaultServerCiphers := s },
   .text "ssl_default_server_ciphersuites" fun s g =>
     { g with sslDefaultServerCiphersuites := s },
   .texts "ssl_default_server_options" fun ss g => { g with sslDefaultServerOptions := ss },
   .text "ssl_dh_param_file" fun s g => { g with sslDhParamFile := s },
   .text "ssl_server_verify" fun s g => { g with sslServerVerify := s },
   .text "log_tag" fun s g => { g with logTag := s },
   .text "log_send_hostname" fun s g => { g with logSendHostname := s },
   .text "stats_timeout" fun s g => { g with statsTimeout := s },
   .flag "listener_multi_queue" fun b g => { g with listenerMultiQueue := b },
   .flag "idle_pool_shared" fun b g => { g with idlePoolShared := b },
   .flag "ssl_keylog" fun b g => { g with sslKeylog := b },
   .texts "lua_load" fun ss g => { g with luaLoad := ss }]

/-- The settings of a group of name servers. -/
def Resolvers.settings : List (Setting Resolvers) :=
  [.flag "parse_resolv_conf" fun b r => { r with parseResolvConf := b },
   .count "resolve_retries" fun n r => { r with resolveRetries := n },
   .text "timeout_resolve" fun s r => { r with timeoutResolve := s },
   .text "timeout_retry" fun s r => { r with timeoutRetry := s },
   .count "accepted_payload_size" fun n r => { r with acceptedPayloadSize := n }]

/-- The settings of a group of mail servers. -/
def Mailers.settings : List (Setting Mailers) :=
  [.text "timeout_mail" fun s m => { m with timeoutMail := s }]

end Balancer

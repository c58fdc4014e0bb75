import Dashboard.Command.Error
import Dashboard.Http.SocketAddress
import Dashboard.Server.State

/-!
# Starting a server

The settings are loaded and checked, the first account is added, and the address to
listen at must be one.
-/

namespace Dashboard.Command

/-- The event of a file of settings that is not there. -/
def defaultsEvent (path : String) : Log.Event := ⟨.info, "CONFIG_DEFAULTS", [("path", path)]⟩

/-- The settings of the octets of a file. -/
def readSettings (octets : List UInt8) : Except SettingsFailure Server.Settings :=
  if (Text.Utf8.toString? octets).isNone then
    .error (.unreadable "stream did not contain valid UTF-8")
  else match (Json.Document.ofOctets? octets).bind Server.Settings.ofDocument? with
  | none => .error .notSettings
  | some settings =>
    match settings.validate with
    | .error fault => .error (.refused fault)
    | .ok () => .ok settings

/-- Loads settings from a file; a file that is not there sets nothing. -/
def loadSettings (path : String) (content : Option (List UInt8)) :
    Except CommandError Server.Settings × List Log.Event :=
  match content with
  | none => (.ok .standard, [defaultsEvent path])
  | some octets =>
    match readSettings octets with
    | .error failure => (.error (.settings failure), [])
    | .ok settings => (.ok settings, [])

/-- Starts a server with settings. -/
def boot (scheme : Account.SecretScheme) (draws : Account.Draws) (settings : Server.Settings) :
    Except CommandError Server.ServerState × List Log.Event :=
  match Server.ServerState.bootstrap scheme draws (.start settings) with
  | .error error => (.error (.boot (.admin error)), [])
  | .ok (state, events) =>
    match Http.SocketAddress.parse? settings.address with
    | none => (.error (.boot .address), events)
    | some _ => (.ok state, events)

end Dashboard.Command

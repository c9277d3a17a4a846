import ServerLaunch.Value

/-!
# Server Flags

The flags that every server understands, under names of their own.

A caller may name a flag by its text, by one of the general flags, or by any object
that knows its text; all three mean the text. Six texts are short and long forms of
three settings that a builder keeps in fields of their own: port, address and log
file. Two texts are forms of the base path.

## Main definitions

* `GeneralFlag`: The flags with names.
* `FlagName`: The ways to name a flag, and `FlagName.text`, what they mean.
* `isPortFlag`, `isAddressFlag`, `isLogFlag`: Flags that have a field of their own.
-/

namespace ServerLaunch

/-- Flags that every server understands. -/
inductive GeneralFlag where
  | shell
  | allowCors
  | relaxedSecurity
  | allowInsecure
  | denyInsecure
  | callbackAddress
  | callbackPort
  | sessionOverride
  | logLevel
  | logTimestamp
  | localTimezone
  | logNoColors
  | logFilters
  | webHook
  | configurationFile
  | keepAliveTimeout
  | basePath
  | strictCaps
  | useDrivers
  | usePlugins
deriving DecidableEq, Repr, Inhabited

namespace GeneralFlag

/-- All flags, in order. -/
def all : List GeneralFlag :=
  [.shell, .allowCors, .relaxedSecurity, .allowInsecure, .denyInsecure, .callbackAddress,
    .callbackPort, .sessionOverride, .logLevel, .logTimestamp, .localTimezone, .logNoColors,
    .logFilters, .webHook, .configurationFile, .keepAliveTimeout, .basePath, .strictCaps,
    .useDrivers, .usePlugins]

/-- The name of a flag in a configuration. -/
def name : GeneralFlag → String
  | .shell => "SHELL"
  | .allowCors => "ALLOW_CORS"
  | .relaxedSecurity => "RELAXED_SECURITY"
  | .allowInsecure => "ALLOW_INSECURE"
  | .denyInsecure => "DENY_INSECURE"
  | .callbackAddress => "CALLBACK_ADDRESS"
  | .callbackPort => "CALLBACK_PORT"
  | .sessionOverride => "SESSION_OVERRIDE"
  | .logLevel => "LOG_LEVEL"
  | .logTimestamp => "LOG_TIMESTAMP"
  | .localTimezone => "LOCAL_TIMEZONE"
  | .logNoColors => "LOG_NO_COLORS"
  | .logFilters => "LOG_FILTERS"
  | .webHook => "WEB_HOOK"
  | .configurationFile => "CONFIGURATION_FILE"
  | .keepAliveTimeout => "KEEP_ALIVE_TIMEOUT"
  | .basePath => "BASEPATH"
  | .strictCaps => "STRICT_CAPS"
  | .useDrivers => "USE_DRIVERS"
  | .usePlugins => "USE_PLUGINS"

/-- The flag as it stands on a command line. -/
def argument : GeneralFlag → String
  | .shell => "--shell"
  | .allowCors => "--allow-cors"
  | .relaxedSecurity => "--relaxed-security"
  | .allowInsecure => "--allow-insecure"
  | .denyInsecure => "--deny-insecure"
  | .callbackAddress => "--callback-address"
  | .callbackPort => "--callback-port"
  | .sessionOverride => "--session-override"
  | .logLevel => "--log-level"
  | .logTimestamp => "--log-timestamp"
  | .localTimezone => "--local-timezone"
  | .logNoColors => "--log-no-colors"
  | .logFilters => "--log-filters"
  | .webHook => "--webhook"
  | .configurationFile => "--config"
  | .keepAliveTimeout => "--keep-alive-timeout"
  | .basePath => "--base-path"
  | .strictCaps => "--strict-caps"
  | .useDrivers => "--use-drivers"
  | .usePlugins => "--use-plugins"

/-- The flag of a name. -/
def ofName? (s : String) : Option GeneralFlag :=
  all.find? fun flag => flag.name == s

/-- The flag of a text. -/
def ofArgument? (s : String) : Option GeneralFlag :=
  all.find? fun flag => flag.argument == s

/-- The message about a text that is no general flag. -/
def unknownMessage (s : String) : String :=
  Text.quoted s ++ " is not a valid GeneralServerFlag"

end GeneralFlag

/-- The ways to name a flag. -/
inductive FlagName where
  | text (s : String)
  | general (flag : GeneralFlag)
  | custom (argument : String)
deriving DecidableEq, Repr, Inhabited

/-- The flag as it stands on a command line. -/
def FlagName.argument : FlagName → String
  | .text s => s
  | .general flag => flag.argument
  | .custom s => s

/-- The base path flag. -/
def basePathFlag : String := GeneralFlag.basePath.argument

/-- A short form of the base path flag that some configurations use. -/
def basePathAlias : String := "-pa"

/-- Flags that mean the port. -/
def isPortFlag (name : String) : Bool :=
  name == "--port" || name == "-p"

/-- Flags that mean the address. -/
def isAddressFlag (name : String) : Bool :=
  name == "--address" || name == "-a"

/-- Flags that mean the log file. -/
def isLogFlag (name : String) : Bool :=
  name == "--log" || name == "-g"

end ServerLaunch

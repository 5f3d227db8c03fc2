import Backchain.Settings

/-! Formats of settings. A text format reads and writes tables, which list values by their keys, and
a codec keeps settings in tables.
-/

namespace Backchain

/-- A text format for tables. Texts that are not read and tables that are not written have a cause.
-/
structure TableFormat (Value Cause : Type) where
  parse : String → Except Cause (List (String × Value))
  print : List (String × Value) → Except Cause String

/-- A way to keep settings in tables. Tables that hold no settings have a cause. -/
structure SettingsCodec (Value Cause : Type) where
  decode : List (String × Value) → Except Cause Settings
  encode : Settings → List (String × Value)

/-- A text format for settings. -/
structure SettingsFormat (Cause : Type) where
  read : String → Except Cause Settings
  print : Settings → Except Cause String

/-- The format of settings that are kept in tables. -/
def SettingsFormat.ofTables {Value Cause : Type} (format : TableFormat Value Cause)
    (codec : SettingsCodec Value Cause) : SettingsFormat Cause where
  read text := (format.parse text).bind codec.decode
  print settings := format.print (codec.encode settings)

end Backchain

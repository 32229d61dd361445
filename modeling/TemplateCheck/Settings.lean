import TemplateCheck.Package.Layout

/-! # Settings

What can be configured besides the layout: how many package roots stay
compiled, and whether an edit checks every open document again. -/

namespace TemplateCheck

structure CacheSettings where
  capacity : Nat := 16
  deriving Repr, DecidableEq

instance : Inhabited CacheSettings := ⟨{}⟩

structure SessionSettings where
  revalidatesOpenDocuments : Bool := false
  deriving Repr, DecidableEq

instance : Inhabited SessionSettings := ⟨{}⟩

structure Settings where
  layout : Package.Layout := {}
  cache : CacheSettings := {}
  session : SessionSettings := {}
  deriving Repr, DecidableEq

instance : Inhabited Settings := ⟨{}⟩

namespace CacheSettings

def greatestCapacity : Nat := 0xffffffffffffffff

def record : Decode.Record CacheSettings where
  name := "RawCacheSettings"
  strict := true
  fields := [{
    name := "max_roots"
    required := false
    read := fun json _ => (Decode.nat "usize" greatestCapacity json).map CacheSettings.mk }]
  initial := {}

/-- Read the settings; at least one root has to fit. -/
def decode (format : Decode.Format) : Decode.Decoder CacheSettings := fun json => do
  let settings ← record.decode format json
  if settings.capacity = 0 then .error (.refused "max_roots must be greater than zero")
  else .ok settings

end CacheSettings

namespace SessionSettings

def record : Decode.Record SessionSettings where
  name := "SessionSettings"
  strict := true
  fields := [{
    name := "revalidate_open_documents"
    required := false
    read := fun json _ => (Decode.bool json).map SessionSettings.mk }]
  initial := {}

def decode (format : Decode.Format) : Decode.Decoder SessionSettings :=
  record.decode format

end SessionSettings

namespace Settings

/-- The sections of a configuration file. -/
def record (format : Decode.Format) : Decode.Record Settings where
  name := "Settings"
  strict := true
  fields := [
    { name := "layout"
      required := false
      read := fun json settings =>
        (Package.Layout.decode format json).map fun layout => { settings with layout } },
    { name := "cache"
      required := false
      read := fun json settings =>
        (CacheSettings.decode format json).map fun cache => { settings with cache } },
    { name := "session"
      required := false
      read := fun json settings =>
        (SessionSettings.decode format json).map fun session => { settings with session } }]
  initial := {}

def decode (format : Decode.Format) : Decode.Decoder Settings :=
  (record format).decode format

/-- Equality, with the paths of the layout compared by components. -/
def same (left right : Settings) : Bool :=
  left.layout.same right.layout && left.cache == right.cache && left.session == right.session

end Settings

end TemplateCheck

import Formulary.Data.Entries

set_option autoImplicit false

namespace Formulary

mutual

/-- Mappings are laid over each other key by key; anything else replaces what was there. -/
def Datum.overlay : Datum → Datum → Datum
  | .map base, .map top => .map (Entries.overlay base top)
  | _, d => d

def Entries.overlay : Entries → Entries → Entries
  | base, [] => base
  | base, (key, d) :: rest =>
      Entries.overlay
        (Entries.put base key (Datum.overlay ((Entries.get? base key).getD .null) d)) rest

end

namespace Entries

def layered (layers : List Entries) : Entries := layers.foldl overlay []

end Entries

end Formulary

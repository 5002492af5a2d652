/-!
# Chain — remote references

A reference that looks like an absolute web URL or like a relative path is remote; any other is a
local name.
-/

namespace Dossier.Reference

/-- Does the reference look like a URL or a path? -/
def isRemote (reference : String) : Bool :=
  ["http://", "https://", "./", "../", "/"].any fun start => reference.startsWith start

end Dossier.Reference

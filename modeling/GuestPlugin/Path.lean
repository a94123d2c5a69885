/-! # Paths

A path is its text, compared and printed verbatim: nothing is normalised when two are joined. What
the text means to a storage is kept apart.
-/

set_option autoImplicit false

namespace GuestPlugin

structure Path where
  text : String
deriving DecidableEq

namespace Path

def isAbsolute (p : Path) : Bool := p.text.toList.head? == some '/'

/-- An absolute second path replaces the first. Otherwise one slash stands between the two, unless
the first is empty or already ends in one. -/
def join (base next : Path) : Path :=
  if next.isAbsolute then next
  else if base.text.toList.getLast?.all (· == '/') then ⟨base.text ++ next.text⟩
  else ⟨base.text ++ "/" ++ next.text⟩

end Path
end GuestPlugin

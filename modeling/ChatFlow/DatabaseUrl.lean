import ChatFlow.Text.Search

/-!
# Database addresses

The short schemes of database addresses are replaced by those that name the driver.
-/

namespace ChatFlow

/-- Schemes of database addresses and the schemes of their drivers. -/
def driverSchemes : List (String × String) :=
  [("postgres://", "postgresql+asyncpg://"),
   ("postgresql://", "postgresql+asyncpg://"),
   ("sqlite://", "sqlite+aiosqlite://")]

/-- The address with the scheme of its driver. Other addresses stay as they are. -/
def withDriver (url : String) : String :=
  match driverSchemes.find? (startsWithText url ·.1) with
  | some (scheme, driver) => driver ++ dropText scheme.length url
  | none => url

end ChatFlow

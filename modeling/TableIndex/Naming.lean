import TableIndex.Text.Blank
import TableIndex.Text.Uppercase

/-!
# Physical names

A table's collection and config-set carry its name behind the domain of its tenant, so that tables of the
same name in two domains do not meet.
-/

namespace TableIndex

/-- How table names become physical names. -/
structure NamingPolicy where
  tenantDomain : String
deriving DecidableEq, Repr

namespace NamingPolicy

/-- The domain of those who name none. -/
def defaultDomain : String := "DEFAULT"

/-- The policy of a domain: without outer blanks, in upper case; a blank one is the default. -/
def ofDomain (domain : String) : NamingPolicy where
  tenantDomain := Text.upper (if Text.isBlank domain then defaultDomain else Text.trim domain)

/-- The policy of the default domain. -/
def default : NamingPolicy := ofDomain defaultDomain

instance : Inhabited NamingPolicy := ⟨default⟩

/-- The policy of a domain that may be missing. -/
def ofDomain? (domain : Option String) : NamingPolicy := (domain.map ofDomain).getD default

/-- The physical name of a table, which is kept as it stands; a blank name has none. -/
def qualify (p : NamingPolicy) (table : String) : Option String :=
  if Text.isBlank table then none else some (p.tenantDomain ++ "_" ++ table)

theorem qualify_eq_none_iff (p : NamingPolicy) (table : String) :
    p.qualify table = none ↔ Text.isBlank table = true := by
  simp [qualify]

end NamingPolicy

end TableIndex

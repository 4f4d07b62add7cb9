import Herald.Table

/-!
# Herald.Directory

Tenants and the organizations to which they belong.

* `Directory`: the registered domains and memberships.
* `Directory.tenantId`: the tenant of a domain.
* `Directory.organizationOf`: the organization whose templates are the defaults of a tenant.
-/

namespace Herald

/-- The registered domains of tenants, and the organizations of tenants. -/
structure Directory where
  domains : Table String String := Table.empty
  organizations : Table String String := Table.empty
  passthrough : Bool := false

namespace Directory

def register (d : Directory) (domain tenant : String) : Directory :=
  { d with domains := d.domains.insert domain tenant }

def setOrganization (d : Directory) (tenant organization : String) : Directory :=
  { d with organizations := d.organizations.insert tenant organization }

def withTenant (d : Directory) (domain tenant : String) (organization : Option String) :
    Directory :=
  match organization with
  | none => d.register domain tenant
  | some o => (d.register domain tenant).setOrganization tenant o

/-- The tenant of a domain. The empty domain is nobody's unless it is registered. -/
def tenantId (d : Directory) (domain : String) : Option String :=
  match d.domains.get? domain with
  | some tenant => some tenant
  | none => if d.passthrough && domain ≠ "" then some domain else none

def organizationOf (d : Directory) (tenant : String) : Option String := d.organizations.get? tenant

end Directory

end Herald

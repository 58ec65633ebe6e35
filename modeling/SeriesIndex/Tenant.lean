import SeriesIndex.Text.Numeral
import SeriesIndex.Text.Quoted

/-!
# Tenants

Every series belongs to a tenant: a project of an account. A tenant is written as its two numbers
with a colon between; without a colon the project is the first one.
-/

namespace SeriesIndex

structure Tenant where
  account : UInt32
  project : UInt32
deriving DecidableEq, Repr, Inhabited

inductive TenantError where
  | account (text : String) (fault : Text.Numeral.Fault)
  | project (text : String) (fault : Text.Numeral.Fault)
deriving DecidableEq, Repr

def TenantError.message : TenantError → String
  | account text fault => s!"invalid account id {Text.quoted text}: {fault.message}"
  | project text fault => s!"invalid project id {Text.quoted text}: {fault.message}"

namespace Tenant

def render (tenant : Tenant) : String :=
  s!"{tenant.account.toNat}:{tenant.project.toNat}"

/-- A 32-bit number with white space around it. -/
def word (text : List Char) : Except Text.Numeral.Fault UInt32 :=
  (Text.Numeral.read Text.Numeral.maxWord32 (Text.trim text)).map UInt32.ofNat

/-- What stands before the first colon, and what after it. -/
def parts (text : List Char) : List Char × List Char :=
  match text.span (· ≠ ':') with
  | (account, []) => (account, ['0'])
  | (account, _ :: project) => (account, project)

def parse (text : String) : Except TenantError Tenant :=
  let (account, project) := parts text.toList
  match word account, word project with
  | .error fault, _ => .error (.account (String.ofList account) fault)
  | _, .error fault => .error (.project (String.ofList project) fault)
  | .ok account, .ok project => .ok ⟨account, project⟩

end Tenant

end SeriesIndex

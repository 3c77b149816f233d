import Ggid.Gateway.Request

/-!
# Gateway — routes

Which entry of the routing table serves a path, and the path its backend is asked for. Some
features are reached under a path of their own and live below a service's path.

* `matchBackend_spec` — the entry found is one of the table, with the longest matching path.
-/

namespace Ggid.Gateway

open Ggid.Go

/-- `matchBackend`: the longest entry that begins the path. -/
def matchBackend {α : Type} (proxies : List (String × α)) (path : String) :
    Option (String × α) :=
  proxies.foldl (fun best entry =>
    if Strings.hasPrefix path.toList entry.1.toList = true ∧
        (best.elim 0 fun found => found.1.length) < entry.1.length then some entry else best) none

/-- Rewritten to `/api/v1/auth/<feature>`. -/
def authAliases : List String :=
  ["/api/v1/mfa", "/api/v1/tokens", "/api/v1/login-security", "/api/v1/password-history",
    "/api/v1/delegation", "/api/v1/account-linking", "/api/v1/consent", "/api/v1/notifications",
    "/api/v1/introspection", "/api/v1/device-bindings", "/api/v1/api-keys",
    "/api/v1/access-keys", "/api/v1/sessions"]

/-- Rewritten to `/api/v1/identity/<feature>`. -/
def identityAliases : List String := ["/api/v1/dashboard", "/api/v1/groups", "/api/v1/flows"]

/-- Rewritten to `/api/v1/audit/<feature>`. -/
def auditAliases : List String := ["/api/v1/access-reviews", "/api/v1/activity", "/api/v1/exports"]

/-- `strings.TrimPrefix(prefix, "/api/v1/")`. -/
def featureOf (route : String) : List Char :=
  Strings.trimPrefix route.toList "/api/v1/".toList

/-- What `ServeHTTP` makes of the path of a request that matched the route. -/
def rewriteChars (route : String) (path : List Char) : List Char :=
  let feature := featureOf route
  let path :=
    if route ∈ authAliases then
      Strings.replaceFirst
        (Strings.replaceFirst path ("/api/v1/".toList ++ feature ++ ['/'])
          ("/api/v1/auth/".toList ++ feature ++ ['/']))
        ("/api/v1/".toList ++ feature) ("/api/v1/auth/".toList ++ feature)
    else path
  let path :=
    if route ∈ identityAliases then
      Strings.replaceFirst path ("/api/v1/".toList ++ feature)
        ("/api/v1/identity/".toList ++ feature)
    else path
  if route ∈ auditAliases then
    Strings.replaceFirst path ("/api/v1/".toList ++ feature) ("/api/v1/audit/".toList ++ feature)
  else path

def rewritePath (route path : String) : String := String.ofList (rewriteChars route path.toList)

/-- What is found is an entry that begins the path, and none that does is longer. -/
theorem matchBackend_spec {α : Type} {proxies : List (String × α)} {path : String}
    {entry : String × α} (h : matchBackend proxies path = some entry) :
    entry ∈ proxies ∧ Strings.hasPrefix path.toList entry.1.toList = true ∧
      ∀ other ∈ proxies, Strings.hasPrefix path.toList other.1.toList = true →
        other.1.length ≤ entry.1.length := by
  have hfold : ∀ (rest done : List (String × α)) (best : Option (String × α)),
      (∀ found, best = some found →
        found ∈ done ∧ Strings.hasPrefix path.toList found.1.toList = true) →
      (∀ other ∈ done, Strings.hasPrefix path.toList other.1.toList = true →
        other.1.length ≤ best.elim 0 fun found => found.1.length) →
      rest.foldl (fun best entry =>
        if Strings.hasPrefix path.toList entry.1.toList = true ∧
            (best.elim 0 fun found => found.1.length) < entry.1.length then some entry
        else best) best = some entry →
      entry ∈ done ++ rest ∧ Strings.hasPrefix path.toList entry.1.toList = true ∧
        ∀ other ∈ done ++ rest, Strings.hasPrefix path.toList other.1.toList = true →
          other.1.length ≤ entry.1.length := by
    intro rest
    induction rest with
    | nil =>
      intro done best hbest hlongest hresult
      rw [List.foldl_nil] at hresult
      obtain ⟨hmem, hpre⟩ := hbest entry hresult
      rw [hresult] at hlongest
      rw [List.append_nil]
      exact ⟨hmem, hpre, hlongest⟩
    | cons next rest ih =>
      intro done best hbest hlongest hresult
      rw [List.foldl_cons] at hresult
      have hassoc : done ++ next :: rest = (done ++ [next]) ++ rest := by simp
      rw [hassoc]
      by_cases hnext : Strings.hasPrefix path.toList next.1.toList = true ∧
          (best.elim 0 fun found => found.1.length) < next.1.length
      · rw [if_pos hnext] at hresult
        refine ih (done ++ [next]) (some next) ?_ ?_ hresult
        · intro found hfound
          obtain rfl := Option.some.inj hfound
          exact ⟨by simp, hnext.1⟩
        · intro other hother hpre
          rcases List.mem_append.mp hother with hother | hother
          · exact (hlongest other hother hpre).trans (Nat.le_of_lt hnext.2)
          · rw [List.mem_singleton.mp hother]
            exact Nat.le_refl _
      · rw [if_neg hnext] at hresult
        refine ih (done ++ [next]) best ?_ ?_ hresult
        · intro found hfound
          obtain ⟨hmem, hpre⟩ := hbest found hfound
          exact ⟨List.mem_append_left _ hmem, hpre⟩
        · intro other hother hpre
          rcases List.mem_append.mp hother with hother | hother
          · exact hlongest other hother hpre
          · obtain rfl := List.mem_singleton.mp hother
            by_contra hlt
            exact hnext ⟨hpre, Nat.lt_of_not_le hlt⟩
  have hall := hfold proxies [] none (fun _ hnone => absurd hnone (by simp))
    (fun _ hmem => absurd hmem List.not_mem_nil) h
  rwa [List.nil_append] at hall

end Ggid.Gateway

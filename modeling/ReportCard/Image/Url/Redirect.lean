import ReportCard.Image.Url.Reference

/-!
# Redirections

The address that a request is sent on to.  A location without a host is completed from the address that was requested,
and a fragment goes along unless the location has one of its own.
-/

namespace ReportCard.Url

/-- The address after a part of it was replaced, read once more. -/
def renew (u : Url) : Except UrlFault Url := (settle u.scheme u).bind fun v => ofText v.text

/-- The address with the host of another one. -/
def withHostOf (u other : Url) : Except UrlFault Url := do
  let shown ← shownHost other.host
  renew { u with host := ← if shown.toList.contains ':' then .ok shown else normalHost shown }

/-- The address with the fragment of another one, escaped again. -/
def carryFragment (u : Url) (fragment : String) : Except UrlFault Url :=
  match control? fragment with
  | some (c, position) => .error (.unprintableFragment c position)
  | none => renew { u with fragment := some (escape inFragment fragment) }

/-- The text of the fragment of an address, empty if there is none. -/
def fragmentText (u : Url) : String := unescape (u.fragment.getD "")

/-- The address, unless its host stands for no name. -/
def checkHost (u : Url) : Except UrlFault Url := (shownHost u.host).map fun _ => u

/-- The address that a request for `base` is sent on to by a location. -/
def redirect (base : Url) (location : String) : Except UrlFault Url := do
  let found ← (ofText location).mapError .inLocation
  let found ← if found.scheme.isEmpty then .ok found else found.checkHost
  let found ← if !found.scheme.isEmpty && found.host.isEmpty then found.withHostOf base else .ok found
  let found ← if found.isRelative then (Reference.complete base.text found.text).bind ofText else .ok found
  let kept := base.fragmentText
  let found ← if !kept.isEmpty && found.fragmentText.isEmpty then found.carryFragment kept else .ok found
  found.checkHost

end ReportCard.Url

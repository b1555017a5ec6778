import CommandLink.Text.Blank

/-!
# Server addresses as keys

Tokens are kept under the address of their server. An address is brought into one form first:
without white space around it and with a slash at its end.
-/

namespace CommandLink

/-- The one form of an address. -/
def normalizeUrl (url : String) : String :=
  let trimmed := Text.trimChars url.toList
  if trimmed.getLast? = some '/' then String.ofList trimmed
  else String.ofList (trimmed ++ ['/'])

end CommandLink

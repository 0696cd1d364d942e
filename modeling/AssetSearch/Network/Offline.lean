/-
This file holds the transport of a program that has no connection to any service.
-/

import AssetSearch.Network.Client

namespace AssetSearch.Network

open AssetSearch.Time

/-- Every exchange is lost, and no time passes between two attempts. -/
def offlineTransport (Effect : Type → Type) [Monad Effect] : Transport Effect where
  exchange _ := return .lost
  backoff _ _ := return .zero
  pause _ := return ()

end AssetSearch.Network

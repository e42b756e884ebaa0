import Provisioning.Blueprint.Basic

/-!
The power handlers of the four kinds of resource that can be switched on and off.
-/

namespace Provisioning

def serverPower (zone : Zone) (id : ResourceId) : PowerHandler CloudService where
  name := s!"server {id.text}"
  request
    | .boot => Build.attempt (.server zone (.boot id))
    | .shutdown force => Build.attempt (.server zone (.shutdown id force))
  status := do
    let server ← Build.attempt (.server zone (.read id))
    return server.instanceStatus

def databasePower (zone : Zone) (id : ResourceId) : PowerHandler CloudService where
  name := s!"database {id.text}"
  request
    | .boot => Build.attempt (.database zone (.boot id))
    | .shutdown force => Build.attempt (.database zone (.shutdown id force))
  status := do
    let database ← Build.attempt (.database zone (.read id))
    return database.instanceStatus

def vpcRouterPower (zone : Zone) (id : ResourceId) : PowerHandler CloudService where
  name := s!"VPC router {id.text}"
  request
    | .boot => Build.attempt (.vpcRouter zone (.boot id))
    | .shutdown force => Build.attempt (.vpcRouter zone (.shutdown id force))
  status := do
    let router ← Build.attempt (.vpcRouter zone (.read id))
    return router.instanceStatus

def mobileGatewayPower (zone : Zone) (id : ResourceId) : PowerHandler CloudService where
  name := s!"mobile gateway {id.text}"
  request
    | .boot => Build.attempt (.mobileGateway zone (.boot id))
    | .shutdown force => Build.attempt (.mobileGateway zone (.shutdown id force))
  status := do
    let gateway ← Build.attempt (.mobileGateway zone (.read id))
    return gateway.instanceStatus

end Provisioning

import RancherLb.GoLib
import RancherLb.Metadata
import RancherLb.Endpoints
import RancherLb.Build
import RancherLb.Grouping
import RancherLb.Config
import RancherLb.Resolution
import RancherLb.Lookup
import RancherLb.Selector
import RancherLb.Reconcile
import RancherLb.Pipeline
import RancherLb.Order
import RancherLb.Locality
import RancherLb.Legacy
import RancherLb.Precedence
import RancherLb.Alias
import RancherLb.DrainSelector
import RancherLb.Versions

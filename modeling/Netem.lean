import Netem.Errors
import Netem.HostPort
import Netem.Facade
import Netem.Dial
import Netem.TLS
import Netem.DPIThrottle
import Netem.DNSPing
import Netem.Throttle

import ChronyNts.KeyExchange.Message
import ChronyNts.KeyExchange.Framing
import ChronyNts.KeyExchange.Exchange
import ChronyNts.KeyExchange.ServerKeys
import ChronyNts.KeyExchange.Negotiation
import ChronyNts.KeyExchange.Instance
import ChronyNts.KeyExchange.Lifecycle
import ChronyNts.KeyExchange.ClientResponse
import ChronyNts.KeyExchange.ServerResponse
import ChronyNts.KeyExchange.ResponseCheck
import ChronyNts.KeyExchange.RequestCheck
import ChronyNts.KeyExchange.Tracking
import ChronyNts.KeyExchange.Readiness
import ChronyNts.KeyExchange.Handles
import ChronyNts.KeyExchange.Buffer
import ChronyNts.KeyExchange.Connection
import ChronyNts.KeyExchange.ServerPool
import ChronyNts.NtsNtp.Client
import ChronyNts.NtsNtp.Server
import ChronyNts.NtsNtp.Wire

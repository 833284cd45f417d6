import ShadowsocksR.Lib.Framing
import ShadowsocksR.Lib.Bytes
import ShadowsocksR.Lib.CString
import ShadowsocksR.Buffer
import ShadowsocksR.Cache
import ShadowsocksR.Crypto
import ShadowsocksR.Obfs.ObfsUtil
import ShadowsocksR.Obfs.HttpSimple
import ShadowsocksR.Obfs.Tls12Ticket
import ShadowsocksR.Obfs.Base64
import ShadowsocksR.Obfs.Crc32
import ShadowsocksR.Obfs.AuthSimple
import ShadowsocksR.Obfs.AuthSha1V4
import ShadowsocksR.Obfs.AuthAes128
import ShadowsocksR.Client.S5
import ShadowsocksR.SockAddr
import ShadowsocksR.Lib.StreamCipher
import ShadowsocksR.Encrypt.Table
import ShadowsocksR.Encrypt.Cipher
import ShadowsocksR.Obfs.AuthChain.DataSize
import ShadowsocksR.Obfs.AuthChain.ServerInfo
import ShadowsocksR.Lib.Machine
import ShadowsocksR.Tunnel.Ctx
import ShadowsocksR.Tunnel.Lifetime
import ShadowsocksR.Tunnel.Streaming
import ShadowsocksR.NetUtils
import ShadowsocksR.Obfs.AuthChain.Udp
import ShadowsocksR.Executive.Header
import ShadowsocksR.Lib.TlsRecord
import ShadowsocksR.Tls
import ShadowsocksR.Obfs.Tls12Hello
import ShadowsocksR.Obfs.LegacyCodecs
import ShadowsocksR.SsrQrCode
import ShadowsocksR.Client.Feedback
import ShadowsocksR.Obfs.AuthChain.Tcp
import ShadowsocksR.Obfs.AuthChain.Stream
import ShadowsocksR.Server.Handshake
import ShadowsocksR.Lib.Layers
import ShadowsocksR.Executive.Pipeline
import ShadowsocksR.Executive.Reply
import ShadowsocksR.Lib.Interleave
import ShadowsocksR.Executive.Duplex
import ShadowsocksR.Client.Handshake

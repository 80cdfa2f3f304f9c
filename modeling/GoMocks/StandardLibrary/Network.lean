/-!
# The standard library — the network

The declarations of `net`, `net/http`, `net/url` and `crypto/tls`, as far as other packages name
them: every interface with its methods, and of all other types what their zero value depends on.
-/

namespace GoMocks.StandardLibrary

/-- The lines of package `net`. -/
def netLines : List String :=
  [
    "package net",
    "",
    "import \"time\"",
    "",
    "type Addr interface \x7b",
    "\tNetwork() string",
    "\tString() string",
    "\x7d",
    "",
    "type Conn interface \x7b",
    "\tRead(b []byte) (n int, err error)",
    "\tWrite(b []byte) (n int, err error)",
    "\tClose() error",
    "\tLocalAddr() Addr",
    "\tRemoteAddr() Addr",
    "\tSetDeadline(t time.Time) error",
    "\tSetReadDeadline(t time.Time) error",
    "\tSetWriteDeadline(t time.Time) error",
    "\x7d",
    "",
    "type PacketConn interface \x7b",
    "\tReadFrom(p []byte) (n int, addr Addr, err error)",
    "\tWriteTo(p []byte, addr Addr) (n int, err error)",
    "\tClose() error",
    "\tLocalAddr() Addr",
    "\tSetDeadline(t time.Time) error",
    "\tSetReadDeadline(t time.Time) error",
    "\tSetWriteDeadline(t time.Time) error",
    "\x7d",
    "",
    "type Listener interface \x7b",
    "\tAccept() (Conn, error)",
    "\tClose() error",
    "\tAddr() Addr",
    "\x7d",
    "",
    "type Error interface \x7b",
    "\terror",
    "\tTimeout() bool",
    "\tTemporary() bool",
    "\x7d",
    "",
    "type IP []byte",
    "",
    "type IPMask []byte",
    "",
    "type IPNet struct \x7b",
    "\tIP   IP",
    "\tMask IPMask",
    "\x7d",
    "",
    "type TCPAddr struct \x7b",
    "\tIP   IP",
    "\tPort int",
    "\tZone string",
    "\x7d",
    "",
    "type UDPAddr struct \x7b",
    "\tIP   IP",
    "\tPort int",
    "\tZone string",
    "\x7d",
    "",
    "type Dialer struct \x7b",
    "\tTimeout   time.Duration",
    "\tKeepAlive time.Duration",
    "\x7d",
    "",
    "type Resolver struct \x7b",
    "\tPreferGo bool",
    "\x7d",
    "",
    "type TCPConn struct \x7b",
    "\tconn",
    "\x7d",
    "",
    "type conn struct \x7b",
    "\tfd uintptr",
    "\x7d"
  ]

/-- The lines of package `net/http`. -/
def netHttpLines : List String :=
  [
    "package http",
    "",
    "import (",
    "\t\"context\"",
    "\t\"crypto/tls\"",
    "\t\"io\"",
    "\t\"io/fs\"",
    "\t\"net\"",
    "\t\"net/url\"",
    "\t\"time\"",
    ")",
    "",
    "type Header map[string][]string",
    "",
    "type Handler interface \x7b",
    "\tServeHTTP(ResponseWriter, *Request)",
    "\x7d",
    "",
    "type HandlerFunc func(ResponseWriter, *Request)",
    "",
    "type ResponseWriter interface \x7b",
    "\tHeader() Header",
    "\tWrite([]byte) (int, error)",
    "\tWriteHeader(statusCode int)",
    "\x7d",
    "",
    "type Flusher interface \x7b",
    "\tFlush()",
    "\x7d",
    "",
    "type Hijacker interface \x7b",
    "\tHijack() (net.Conn, *bufioReadWriter, error)",
    "\x7d",
    "",
    "type bufioReadWriter struct \x7b",
    "\trw io.ReadWriter",
    "\x7d",
    "",
    "type RoundTripper interface \x7b",
    "\tRoundTrip(*Request) (*Response, error)",
    "\x7d",
    "",
    "type CookieJar interface \x7b",
    "\tSetCookies(u *url.URL, cookies []*Cookie)",
    "\tCookies(u *url.URL) []*Cookie",
    "\x7d",
    "",
    "type File interface \x7b",
    "\tio.Closer",
    "\tio.Reader",
    "\tio.Seeker",
    "\tReaddir(count int) ([]fs.FileInfo, error)",
    "\tStat() (fs.FileInfo, error)",
    "\x7d",
    "",
    "type FileSystem interface \x7b",
    "\tOpen(name string) (File, error)",
    "\x7d",
    "",
    "type Request struct \x7b",
    "\tMethod        string",
    "\tURL           *url.URL",
    "\tHeader        Header",
    "\tBody          io.ReadCloser",
    "\tContentLength int64",
    "\tHost          string",
    "\tRemoteAddr    string",
    "\tRequestURI    string",
    "\tTLS           *tls.ConnectionState",
    "\tctx           context.Context",
    "\x7d",
    "",
    "type Response struct \x7b",
    "\tStatus        string",
    "\tStatusCode    int",
    "\tHeader        Header",
    "\tBody          io.ReadCloser",
    "\tContentLength int64",
    "\tRequest       *Request",
    "\x7d",
    "",
    "type Cookie struct \x7b",
    "\tName     string",
    "\tValue    string",
    "\tPath     string",
    "\tDomain   string",
    "\tExpires  time.Time",
    "\tMaxAge   int",
    "\tSecure   bool",
    "\tHttpOnly bool",
    "\x7d",
    "",
    "type Client struct \x7b",
    "\tTransport RoundTripper",
    "\tJar       CookieJar",
    "\tTimeout   time.Duration",
    "\x7d",
    "",
    "type Server struct \x7b",
    "\tAddr         string",
    "\tHandler      Handler",
    "\tReadTimeout  time.Duration",
    "\tWriteTimeout time.Duration",
    "\x7d",
    "",
    "type ServeMux struct \x7b",
    "\tmu chan struct\x7b\x7d",
    "\x7d",
    "",
    "type Transport struct \x7b",
    "\tMaxIdleConns int",
    "\x7d"
  ]

/-- The lines of package `net/url`. -/
def netUrlLines : List String :=
  [
    "package url",
    "",
    "type URL struct \x7b",
    "\tScheme   string",
    "\tOpaque   string",
    "\tUser     *Userinfo",
    "\tHost     string",
    "\tPath     string",
    "\tRawQuery string",
    "\tFragment string",
    "\x7d",
    "",
    "type Userinfo struct \x7b",
    "\tusername    string",
    "\tpassword    string",
    "\tpasswordSet bool",
    "\x7d",
    "",
    "type Values map[string][]string"
  ]

/-- The lines of package `crypto/tls`. -/
def cryptoTlsLines : List String :=
  [
    "package tls",
    "",
    "type Config struct \x7b",
    "\tCertificates       []Certificate",
    "\tServerName         string",
    "\tInsecureSkipVerify bool",
    "\tMinVersion         uint16",
    "\x7d",
    "",
    "type Certificate struct \x7b",
    "\tCertificate [][]byte",
    "\tPrivateKey  any",
    "\x7d",
    "",
    "type ConnectionState struct \x7b",
    "\tVersion           uint16",
    "\tHandshakeComplete bool",
    "\tServerName        string",
    "\x7d",
    "",
    "type Conn struct \x7b",
    "\tisClient bool",
    "\x7d"
  ]

end GoMocks.StandardLibrary
